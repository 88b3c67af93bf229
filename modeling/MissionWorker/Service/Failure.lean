import MissionWorker.Json.Reader
import MissionWorker.Service.Issue
import MissionWorker.Service.Status

namespace MissionWorker.Service

/-- A failed request: its status, a summary, the problems in the order of the answer, and the
answer itself where it was JSON. -/
structure Failure where
  status : Nat
  message : String
  errors : List Issue
  body : Option Json

namespace Failure

def summary : List Issue → String
  | [only] => only.display
  | issues => "Mission validation failed with " ++ toString issues.length ++ " errors"

def ofErrors? (items : List Json) : Option (String × List Issue) :=
  match items.filterMap Issue.ofJson? with
  | [] => none
  | issues => some (summary issues, issues)

def ofDetail? : Json → Option (String × List Issue)
  | .text detail => some (detail, [])
  | .object members => do
    let issue ← Issue.ofJson? (.object members)
    return (issue.message, [issue])
  | .array items =>
    match items.filterMap Issue.ofComplaint? with
    | [] => none
    | issues => some ("; ".intercalate (issues.map (·.message)), issues)
  | _ => none

/-- The summary and the problems that an answer tells of: a list of errors goes before a message, and
a message before a detail. -/
def account? (body : Json) : Option (String × List Issue) :=
  ((body.get? "errors").bind Json.items?).bind ofErrors? <|>
    (((body.get? "message").bind Json.text?).map fun message => (message, [])) <|>
    (body.get? "detail").bind ofDetail?

def ofJson (status : Nat) (body : Json) : Failure :=
  let (message, errors) := (account? body).getD (statusMessage status, [])
  { status, message, errors, body := some body }

def ofStatus (status : Nat) : Failure :=
  { status, message := statusMessage status, errors := [], body := none }

def ofText (status : Nat) (body : String) : Failure :=
  match Json.parse? body with
  | some json => ofJson status json
  | none => ofStatus status

def rejectedLocally (message : String) : Failure :=
  { status := 400, message, errors := [{ message }], body := none }

/-- The failure as people read it: its problems, one a line, or the summary where that says as
much. -/
def render (failure : Failure) : String :=
  match failure.errors with
  | [] => failure.message
  | [only] =>
    if only.line.isNone && only.message == failure.message then failure.message
    else only.display
  | issues => "\n".intercalate (issues.map Issue.display)

end Failure
end MissionWorker.Service
