import MissionWorker.Bridge.Basic
import MissionWorker.Service.Endpoint

namespace MissionWorker.Bridge

inductive Method where
  | get
  | post
  deriving DecidableEq

def Method.name : Method → String
  | .get => "GET"
  | .post => "POST"

structure Request where
  method : Method
  url : Url
  payload : Option Json

def Request.contentType? (r : Request) : Option String := r.payload.map fun _ => "application/json"

inductive Delivery where
  | whole
  | cut
  | stalled
  deriving DecidableEq

structure Response where
  status : Nat
  location : Option String := none
  body : List UInt8
  delivery : Delivery := .whole

inductive Reply where
  | response (r : Response)
  | lost
  | silent

/-- The other side: its reply to a request, so many others having come before. -/
abbrev Network := Nat → Request → Reply

def Network.unreachable : Network := fun _ _ => .lost

abbrev Exchanged (α : Type) := Except Error α × List Request

def unanswered (r : Request) : String := "error sending request for url (" ++ r.url.display ++ ")"

/-- The request that a response asks for in place of the one it answers. Where the status asks for a
new method too, the payload is left out. -/
def redirected? (request : Request) (response : Response) : Option Request := do
  let again ← match response.status with
    | 301 | 302 | 303 => some { request with method := .get, payload := none }
    | 307 | 308 => some request
    | _ => none
  let url ← (request.url.join (← response.location)).toOption
  return { again with url }

def answer (net : Network) (before : Nat) (request : Request) : Except Error Response :=
  match net before request with
  | .response response => .ok response
  | .lost => .error (.ofFault { message := unanswered request })
  | .silent => .error (.ofFault { timeout := true, message := unanswered request })

def tooFar (r : Request) : String := "error following redirect for url (" ++ r.url.display ++ ")"

def isUnderstood (url : Url) : Bool := url.scheme = "http".toList || url.scheme = "https".toList

/-- Sends a request and follows redirections, at most so many; the last reply counts. -/
def send (net : Network) (redirections before : Nat) (request : Request) : Exchanged Response :=
  if !isUnderstood request.url then (.error (.ofFault { builder := true, message := "builder error" }), [])
  else
    match answer net before request with
    | .error e => (.error e, [request])
    | .ok response =>
      match redirected? request response with
      | none => (.ok response, [request])
      | some next =>
        match redirections with
        | 0 => (.error (.ofFault { message := tooFar next }), [request])
        | more + 1 =>
          let (result, sent) := send net more (before + 1) next
          (result, request :: sent)

def maxRedirections : Nat := 10

def Response.isSuccess (r : Response) : Bool := 200 ≤ r.status && r.status < 300

/-- The failure that a response tells of. What cannot be read in full is not read at all. -/
def Response.failure (r : Response) : Service.Failure :=
  match r.delivery with
  | .whole => .ofText r.status (Text.Utf8.decodeLossy r.body)
  | .cut | .stalled => .ofText r.status ""

/-- A body that cannot be read in full is flagged as one that cannot be decoded, whatever the cause. -/
def unread (timeout : Bool) : Fault where
  timeout
  decode := true
  message := "error decoding response body"

def isBlankByte (b : UInt8) : Bool := b ∈ [0x20, 0x09, 0x0A, 0x0C, 0x0D]

def Response.value (r : Response) : Except Error Json :=
  if !r.isSuccess then .error (.rejected r.failure)
  else
    match r.delivery with
    | .cut => .error (.ofFault (unread false))
    | .stalled => .error (.ofFault (unread true))
    | .whole =>
      if r.body.all isBlankByte then .ok .null
      else match (Text.Utf8.decode? r.body).bind Json.parse? with
        | some v => .ok v
        | none => .error (.malformed "the body is not JSON")

def Response.health (r : Response) : Except Error Unit :=
  if r.isSuccess then .ok () else .error (.rejected r.failure)

def request (b : Bridge) (endpoint : String) (payload : Option Json) : Except Error Request :=
  (b.endpointUrl endpoint).map fun url =>
    { method := if payload.isSome then .post else .get, url, payload }

def exchange {α : Type} (b : Bridge) (net : Network) (before : Nat) (endpoint : String)
    (payload : Option Json) (read : Response → Except Error α) : Exchanged α :=
  match b.request endpoint payload with
  | .error e => (.error e, [])
  | .ok request =>
    let (result, sent) := send net maxRedirections before request
    (result.bind read, sent)

def call (b : Bridge) (net : Network) (before : Nat) (endpoint : String) (payload : Option Json) :
    Exchanged Json :=
  b.exchange net before endpoint payload Response.value

def health (b : Bridge) (net : Network) (before : Nat) : Exchanged Unit :=
  b.exchange net before Service.Endpoint.health none Response.health

end MissionWorker.Bridge
