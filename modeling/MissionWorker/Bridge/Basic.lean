import MissionWorker.Bridge.Error
import MissionWorker.Bridge.Settings
import MissionWorker.Url.Reader

namespace MissionWorker

structure Bridge where
  base : Url
  settings : Bridge.Settings

namespace Bridge

/-- Whether a name may be told in the head of a request: no controls but the tab. -/
def isSayable (agent : String) : Bool :=
  agent.toList.all fun c => c = '\t' || (0x20 ≤ c.toNat && c.toNat ≠ 0x7F)

def misread (text : String) (e : Url.Error) : Error := .invalidEndpoint (text ++ ": " ++ e.display)

def ofSettings (s : Settings) : Except Error Bridge :=
  match Url.read s.baseUrl with
  | .error e => .error (misread s.baseUrl e)
  | .ok base =>
    if isSayable s.userAgent then .ok { base, settings := s }
    else .error (.invalidEndpoint "builder error")

/-- Whether an endpoint is an absolute path, as far as its first characters tell. -/
def looksAbsolute (endpoint : String) : Bool :=
  match endpoint.toList with
  | '/' :: '/' :: _ => false
  | '/' :: _ => true
  | _ => false

def endpointUrl (b : Bridge) (endpoint : String) : Except Error Url :=
  if looksAbsolute endpoint then
    match b.base.join endpoint with
    | .ok url => .ok url
    | .error e => .error (misread endpoint e)
  else .error (.invalidEndpoint ("endpoint must be an absolute path, got '" ++ endpoint ++ "'"))

end Bridge
end MissionWorker
