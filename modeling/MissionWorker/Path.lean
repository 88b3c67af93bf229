import MissionWorker.Text.Utf8

namespace MissionWorker

structure Path where
  bytes : List UInt8
  deriving DecidableEq, Inhabited

namespace Path

def slash : UInt8 := 0x2F
def dot : UInt8 := 0x2E
def colon : UInt8 := 0x3A

def ofText (s : String) : Path := ⟨Text.Utf8.encode s⟩

def display (p : Path) : String := Text.Utf8.decodeLossy p.bytes

def isEmpty (p : Path) : Bool := p.bytes.isEmpty

def isAbsolute (p : Path) : Bool := p.bytes.head? == some slash

def split (separator : UInt8) : List UInt8 → List (List UInt8)
  | [] => [[]]
  | b :: rest =>
    if b = separator then [] :: split separator rest
    else match split separator rest with
      | [] => [[b]]
      | piece :: pieces => (b :: piece) :: pieces

def join (separator : UInt8) : List (List UInt8) → List UInt8
  | [] => []
  | [piece] => piece
  | piece :: next :: pieces => piece ++ separator :: join separator (next :: pieces)

def isIdle (step : List UInt8) : Bool := step.isEmpty || step == [dot]

def isParent (step : List UInt8) : Bool := step == [dot, dot]

inductive Component where
  | root
  | here
  | step (name : List UInt8)
  deriving DecidableEq

def components (p : Path) : List Component :=
  match split slash p.bytes with
  | [] => []
  | first :: rest =>
    (if rest ≠ [] && first.isEmpty then [.root]
      else if first == [dot] then [.here]
      else if first.isEmpty then []
      else [.step first]) ++
    (rest.filter (!isIdle ·)).map .step

/-- Two paths are the same if they have the same components: repeated slashes, a slash at the end and
steps to the same directory make no difference, except that a relative path may begin with one such
step. -/
def same (p q : Path) : Bool := p.components == q.components

def append (p q : Path) : Path :=
  if q.isAbsolute || p.isEmpty then q
  else if p.bytes.getLast? == some slash then ⟨p.bytes ++ q.bytes⟩
  else ⟨p.bytes ++ slash :: q.bytes⟩

def dropIdle (steps : List (List UInt8)) : List (List UInt8) :=
  (steps.reverse.dropWhile isIdle).reverse

/-- The path without its last component; `none` if nothing but the root is left, or nothing. -/
def parent? (p : Path) : Option Path :=
  match split slash p.bytes with
  | [] => none
  | first :: rest =>
    if first.isEmpty || first == [dot] then
      match dropIdle rest with
      | [] => if first.isEmpty then none else some ⟨[]⟩
      | steps =>
        match dropIdle steps.dropLast with
        | [] => some ⟨if first.isEmpty then [slash] else first⟩
        | steps => some ⟨join slash (first :: steps)⟩
    else some ⟨join slash (dropIdle (dropIdle (first :: rest)).dropLast)⟩

end Path
end MissionWorker
