namespace MissionWorker

inductive Json.Number where
  | int (n : Int)
  | float (x : Float)

inductive Json where
  | null
  | bool (b : Bool)
  | number (n : Json.Number)
  | text (s : String)
  | array (items : List Json)
  | object (members : List (String × Json))

namespace Json

abbrev Members := List (String × Json)

instance : Inhabited Json := ⟨null⟩

def Members.find? {α : Type} (name : String) : List (String × α) → Option α
  | [] => none
  | (n, v) :: rest => if n = name then some v else find? name rest

def Members.insert (name : String) (value : Json) : Members → Members
  | [] => [(name, value)]
  | (n, v) :: rest =>
    if name < n then (name, value) :: (n, v) :: rest
    else if n = name then (name, value) :: rest
    else (n, v) :: insert name value rest

/-- The object of these members; of several with one name the last counts. -/
def ofMembers (members : Members) : Json :=
  object (members.foldl (fun found (n, v) => Members.insert n v found) [])

def get? (name : String) : Json → Option Json
  | object members => Members.find? name members
  | _ => none

def text? : Json → Option String
  | text s => some s
  | _ => none

def items? : Json → Option (List Json)
  | array items => some items
  | _ => none

def int (n : Int) : Json := number (.int n)

def nat (n : Nat) : Json := number (.int n)

/-- A double; JSON has no word for those that are not finite, `null` stands for them. -/
def real (x : Float) : Json := if x.isFinite then number (.float x) else null

def orNull {α : Type} (encode : α → Json) : Option α → Json
  | some a => encode a
  | none => null

end Json
end MissionWorker
