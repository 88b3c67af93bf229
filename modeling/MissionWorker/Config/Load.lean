import MissionWorker.Config.Overlay
import MissionWorker.Yaml.Source

namespace MissionWorker.Config

def defaultLead : String := "FL_MISSION"

inductive Origin where
  | nowhere
  | file (path : String) (content : Except String (List UInt8))

def ofText? (s : String) : Option Config :=
  match Yaml.parse? s with
  | some document =>
    match Config.read document.view with
    | .ok c => some c
    | .error _ => none
  | none => none

def Origin.config : Origin → Except Error Config
  | .nowhere => .ok {}
  | .file path content =>
    match content with
    | .error cause => .error (.unreadable path cause)
    | .ok bytes =>
      match Text.Utf8.decode? bytes with
      | none => .error (.unreadable path "stream did not contain valid UTF-8")
      | some text =>
        match ofText? text with
        | some c => .ok c
        | none => .error (.malformed path)

/-- The configuration with its overrides, if it is as it should be. -/
def settle (lead : String) (env : Environment) (c : Config) : Except Error Config := do
  let c ← overlaid lead env c
  c.check
  return c

def load (lead : String) (env : Environment) (origin : Origin) : Except Error Config := do
  settle lead env (← origin.config)

end MissionWorker.Config
