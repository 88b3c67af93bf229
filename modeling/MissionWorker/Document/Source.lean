import MissionWorker.Document.Fault
import MissionWorker.Json.Basic

namespace MissionWorker.Document

/-- The fields of a record as a document writes them: by name, or in a row without names. -/
inductive Fields (σ : Type) where
  | named (members : List (String × σ))
  | placed (items : List σ)

class Source (σ : Type) where
  text : σ → Except Fault String
  path : σ → Except Fault String
  flag : σ → Except Fault Bool
  natural : (kind : String) → (limit : Nat) → σ → Except Fault Nat
  present : σ → Except Fault (Option σ)
  choice : (words : List String) → σ → Except Fault String
  fields : (record : String) → (declared : List String) → σ → Except Fault (Fields σ)

def word64 {σ : Type} [Source σ] (x : σ) : Except Fault UInt64 :=
  (Source.natural "u64" UInt64.size x).map UInt64.ofNat

def word32 {σ : Type} [Source σ] (x : σ) : Except Fault UInt32 :=
  (Source.natural "u32" UInt32.size x).map UInt32.ofNat

def word16 {σ : Type} [Source σ] (x : σ) : Except Fault UInt16 :=
  (Source.natural "u16" UInt16.size x).map UInt16.ofNat

def optionally {σ α : Type} [Source σ] (read : σ → Except Fault α) (x : σ) :
    Except Fault (Option α) := do
  match ← Source.present x with
  | some y => (read y).map some
  | none => .ok none

end MissionWorker.Document

namespace MissionWorker.Json

open MissionWorker.Document

def found : Json → Found
  | null => .null
  | bool b => .flag b
  | number (.int n) => .integer n
  | number (.float x) => .float x
  | text s => .text s
  | array _ => .sequence
  | object _ => .map

def readText (expected : String) : Json → Except Fault String
  | text s => .ok s
  | v => .error (.wrongType v.found expected)

def readFlag : Json → Except Fault Bool
  | bool b => .ok b
  | v => .error (.wrongType v.found "a boolean")

/-- A natural number below a limit; doubles are none, however whole they are. -/
def readNatural (kind : String) (limit : Nat) : Json → Except Fault Nat
  | number (.int n) =>
    if 0 ≤ n ∧ n < limit then .ok n.toNat else .error (.wrongValue (.integer n) kind)
  | v => .error (.wrongType v.found kind)

def nearestDouble (n : Int) : Float :=
  if n < 0 then -n.natAbs.toUInt64.toFloat else n.natAbs.toUInt64.toFloat

def readReal : Json → Except Fault Float
  | number (.int n) => .ok (nearestDouble n)
  | number (.float x) => .ok x
  | v => .error (.wrongType v.found "f64")

/-- One of the words, alone or as the only name of an object without content. -/
def readChoice (words : List String) : Json → Except Fault String
  | text s => if s ∈ words then .ok s else .error (.unknownChoice s words)
  | object [(s, content)] =>
    if s ∈ words then
      match content with
      | null => .ok s
      | v => .error (.wrongType v.found "unit")
    else .error (.unknownChoice s words)
  | object _ => .error (.wrongValue .map "map with a single key")
  | v => .error (.wrongType v.found "string or map")

def present : Json → Except Fault (Option Json)
  | null => .ok none
  | v => .ok (some v)

def readFields (record : String) : Json → Except Fault (Fields Json)
  | object members => .ok (.named members)
  | array items => .ok (.placed items)
  | v => .error (.wrongType v.found ("struct " ++ record))

instance : Source Json where
  text := readText "a string"
  path := readText "path string"
  flag := readFlag
  natural := readNatural
  present := present
  choice := readChoice
  fields record _ := readFields record

def readList {α : Type} (read : Json → Except Fault α) : Json → Except Fault (List α)
  | array items => items.mapM read
  | v => .error (.wrongType v.found "a sequence")

def readTable {α : Type} (read : Json → Except Fault α) : Json → Except Fault (List (String × α))
  | object members => members.mapM fun (n, v) => (read v).map fun a => (n, a)
  | v => .error (.wrongType v.found "a map")

end MissionWorker.Json
