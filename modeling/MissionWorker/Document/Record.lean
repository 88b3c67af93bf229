import MissionWorker.Document.Source

namespace MissionWorker.Document

inductive Problem where
  | unreadable (field : String) (fault : Fault)
  | missing (field : String)

/-- The problem to report of one with an earlier and one with a later field: an unreadable field
outweighs a missing one, and of two unreadable ones the name that comes first counts. -/
def Problem.graver : Problem → Problem → Problem
  | .unreadable f p, .unreadable g q => if g < f then .unreadable g q else .unreadable f p
  | .missing _, .unreadable g q => .unreadable g q
  | earlier, _ => earlier

def Problem.fault : Problem → Fault
  | .unreadable _ fault => fault
  | .missing field => .missing field

/-- How a value is put together from the fields of a document. Of fields that come by name all are
looked at, and the gravest problem counts; of fields in a row, which are in the order of their
declaration, the first problem does. -/
structure Record (σ α : Type) where
  names : List String
  named : (String → Option σ) → Except Problem α
  placed : (expected : String) → (items : List σ) → (index : Nat) → Except Fault α

namespace Record

variable {σ α β : Type}

/-- A field. `absent` stands in where it is not named, `short` where the row ends before it. -/
def field (name : String) (absent short : Option α) (read : σ → Except Fault α) :
    Record σ α where
  names := [name]
  named find :=
    match find name with
    | some x =>
      match read x with
      | .ok a => .ok a
      | .error fault => .error (.unreadable name fault)
    | none =>
      match absent with
      | some a => .ok a
      | none => .error (.missing name)
  placed expected items index :=
    match items[index]? with
    | some x => read x
    | none =>
      match short with
      | some a => .ok a
      | none => .error (.wrongLength index expected)

def required (name : String) (read : σ → Except Fault α) : Record σ α := field name none none read

def defaulted (name : String) (default : α) (read : σ → Except Fault α) : Record σ α :=
  field name (some default) (some default) read

/-- A field without which the record is complete, but a row is not. -/
def nullable [Source σ] (name : String) (read : σ → Except Fault α) : Record σ (Option α) :=
  field name (some none) none (optionally read)

def always (a : α) : Record σ α where
  names := []
  named _ := .ok a
  placed _ _ _ := .ok a

/-- What one record gives, applied to what the fields of another give after its own. -/
def apply (f : Record σ (α → β)) (r : Record σ α) : Record σ β where
  names := f.names ++ r.names
  named find :=
    match f.named find, r.named find with
    | .ok g, .ok a => .ok (g a)
    | .error p, .error q => .error (p.graver q)
    | .error p, .ok _ => .error p
    | .ok _, .error q => .error q
  placed expected items index := do
    let g ← f.placed expected items index
    let a ← r.placed expected items (index + f.names.length)
    return g a

instance : Applicative (Record σ) where
  pure := always
  seq f r := apply f (r ())

def row (record : String) (count : Nat) : String :=
  "struct " ++ record ++ " with " ++ toString count ++ (if count = 1 then " element" else " elements")

def read [Source σ] (record : String) (r : Record σ α) (x : σ) : Except Fault α := do
  match ← Source.fields record r.names x with
  | .named members =>
    match r.named fun name => Json.Members.find? name members with
    | .ok a => .ok a
    | .error problem => .error problem.fault
  | .placed items =>
    let a ← r.placed (row record r.names.length) items 0
    if items.length > r.names.length then
      throw (.wrongLength items.length "fewer elements in array")
    return a

end Record
end MissionWorker.Document
