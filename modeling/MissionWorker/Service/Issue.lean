import MissionWorker.Document.Record
import MissionWorker.Json.Writer

namespace MissionWorker.Service

open Document

structure Issue where
  message : String
  line : Option UInt32 := none

namespace Issue

def display (issue : Issue) : String :=
  match issue.line with
  | some line => "Line " ++ toString line.toNat ++ ": " ++ issue.message
  | none => issue.message

def toJson (issue : Issue) : Json :=
  match issue.line with
  | some line => .object [("line", .nat line.toNat), ("message", .text issue.message)]
  | none => .object [("message", .text issue.message)]

def read : Json → Except Fault Issue :=
  Record.read "ValidationIssue" <|
    Issue.mk <$> .required "message" Source.text
      <*> .defaulted "line" none (optionally word32)

/-- A line number: an integer of thirty-two bits. -/
def line? : Json → Option UInt32
  | .number (.int n) => if 0 ≤ n ∧ n < UInt32.size then some (.ofNat n.toNat) else none
  | _ => none

/-- An issue from an item of a list of problems: a text, or an object with a message. -/
def ofJson? : Json → Option Issue
  | .text message => some { message }
  | .object members => do
    let found :=
      match Json.Members.find? "message" members with
      | some v => some v
      | none => Json.Members.find? "msg" members
    let message ← (← found).text?
    return { message, line := (Json.Members.find? "line" members).bind line? }
  | _ => none

def step? : Json → Option String
  | .text s => some s
  | .number n => some (Json.Writer.number n)
  | _ => none

/-- Where in the request a problem is, with dots between the steps; `none` if that says nothing. -/
def location? (item : Json) : Option String := do
  let steps ← (← item.get? "loc").items?
  let location := ".".intercalate (steps.filterMap step?)
  if location.isEmpty then none else some location

def ofComplaint? (item : Json) : Option Issue := do
  let message ← (← item.get? "msg").text?
  match location? item with
  | some location => return { message := location ++ ": " ++ message }
  | none => return { message }

end Issue
end MissionWorker.Service
