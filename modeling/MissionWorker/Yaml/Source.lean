import MissionWorker.Document.Source
import MissionWorker.Yaml.Node

namespace MissionWorker.Yaml

open MissionWorker.Document

structure View where
  named : List (Nat × Node)
  node : Node

namespace View

def resolved (v : View) : Node :=
  match v.node with
  | .alias number => (v.named.lookup number).getD Node.nothing
  | node => node

def found : Node → Found
  | .scalar _ _ text => .text text
  | .sequence _ => .sequence
  | .mapping _ => .map
  | .alias _ => .null

def wrong {α : Type} (v : View) (expected : String) : Except Fault α :=
  .error (.wrongType (found v.resolved) expected)

def isNull (s : String) : Bool := ["null", "Null", "NULL", "~"].contains s

def truth? (s : String) : Option Bool :=
  if ["true", "True", "TRUE"].contains s then some true
  else if ["false", "False", "FALSE"].contains s then some false
  else none

def core (name : String) : String := "tag:yaml.org,2002:" ++ name

/-- A scalar that may be read as something else than text: a plain one, or a literal one whose tag
says so. -/
def bare? (v : View) (kind : String) : Option String :=
  match v.resolved with
  | .scalar tag style text =>
    if style = .plain || (style = .literal && tag = some (core kind)) then some text else none
  | _ => none

def digit? (base : Nat) (c : Char) : Option Nat :=
  (Scalar.hexDigit? c).filter (· < base)

def number? (base : Nat) (cs : List Char) : Option Nat := do
  let ds ← cs.mapM (digit? base)
  if ds = [] then none else some (ds.foldl (fun n d => n * base + d) 0)

/-- The number that digits write, in the base that they may begin with. A decimal number of more
than one digit does not begin with zero. -/
def magnitude? : List Char → Option Nat
  | '0' :: 'x' :: rest => number? 16 rest
  | '0' :: 'o' :: rest => number? 8 rest
  | '0' :: 'b' :: rest => number? 2 rest
  | '0' :: c :: rest => if (c :: rest).all Char.isDigit then none else number? 10 ('0' :: c :: rest)
  | cs => number? 10 cs

def integer? (s : String) : Option Int :=
  match s.toList with
  | '+' :: rest => (magnitude? rest).map Int.ofNat
  | '-' :: rest => (magnitude? rest).map fun n => -(n : Int)
  | cs => (magnitude? cs).map Int.ofNat

def readText (expected : String) (v : View) : Except Fault String :=
  match v.resolved with
  | .scalar _ _ text => .ok text
  | _ => v.wrong expected

def readFlag (v : View) : Except Fault Bool :=
  match (v.bare? "bool").bind truth? with
  | some b => .ok b
  | none => v.wrong "a boolean"

def readNatural (kind : String) (limit : Nat) (v : View) : Except Fault Nat :=
  match (v.bare? "int").bind integer? with
  | some n => if 0 ≤ n ∧ n < limit then .ok n.toNat else .error (.wrongValue (.integer n) kind)
  | none => v.wrong kind

/-- Nothing is an empty plain scalar or one of the words for nothing; a tag may say so, and then it
must be true, and any other tag says that there is something. -/
def present (v : View) : Except Fault (Option View) :=
  match v.resolved with
  | .scalar none .plain text => .ok (if text = "" || isNull text then none else some v)
  | .scalar (some tag) .plain text =>
    if tag = core "null" then
      if isNull text then .ok none else .error (.wrongValue (.text text) "null")
    else .ok (some v)
  | _ => .ok (some v)

/-- One of the words: a scalar, or the tag of a plain scalar that says nothing. -/
def readChoice (words : List String) (v : View) : Except Fault String :=
  match v.resolved with
  | .scalar tag style text =>
    match tag.bind fun tag => if tag.toList.head? = some '!' then some (tag.toList.drop 1) else none with
    | some word =>
      let word := String.ofList word
      if word ∉ words then .error (.unknownChoice word words)
      else if style = .plain && (text = "" || isNull text) then .ok word
      else .error (.wrongType (.text text) "unit")
    | none => if text ∈ words then .ok text else .error (.unknownChoice text words)
  | _ => v.wrong "a YAML tag starting with '!'"

def named? (v : View) : List (Node × Node) → Except Fault (List (String × View))
  | [] => .ok []
  | (k, x) :: rest => do
    let name ← readText "field identifier" { v with node := k }
    let members ← v.named? rest
    return (name, { v with node := x }) :: members

def repeated? (names : List String) (members : List (String × View)) : Option String :=
  names.find? fun name => (members.filter (·.1 == name)).length > 1

def readFields (record : String) (declared : List String) (v : View) :
    Except Fault (Fields View) :=
  match v.resolved with
  | .mapping entries => do
    let members ← v.named? entries
    match repeated? declared members with
    | some name => .error (.wrongValue (.text name) "each field once")
    | none => .ok (.named members)
  | .scalar _ .plain "" => .ok (.named [])
  | _ => v.wrong ("struct " ++ record)

instance : Source View where
  text := readText "a string"
  path := readText "path string"
  flag := readFlag
  natural := readNatural
  present := present
  choice := readChoice
  fields := readFields

end View

def Document.view (d : Document) : View :=
  { named := d.named, node := d.root.getD Node.nothing }

end MissionWorker.Yaml
