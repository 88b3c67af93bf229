namespace MissionWorker.Net

inductive Address where
  | v4 (a b c d : UInt8)
  | v6 (groups : Vector UInt16 8)
  deriving DecidableEq

namespace Address

def digit? (base : Nat) (c : Char) : Option Nat :=
  let n :=
    if '0' ≤ c ∧ c ≤ '9' then c.toNat - '0'.toNat
    else if 'a' ≤ c ∧ c ≤ 'f' then c.toNat - 'a'.toNat + 10
    else if 'A' ≤ c ∧ c ≤ 'F' then c.toNat - 'A'.toNat + 10
    else 16
  if n < base then some n else none

def digits (base : Nat) : List Char → List Nat × List Char
  | [] => ([], [])
  | c :: rest =>
    match digit? base c with
    | some d =>
      let (ds, rest) := digits base rest
      (d :: ds, rest)
    | none => ([], c :: rest)

def ofDigits (base : Nat) (ds : List Nat) : Nat := ds.foldl (fun n d => n * base + d) 0

def octet? (cs : List Char) : Option (UInt8 × List Char) :=
  let (ds, rest) := digits 10 cs
  if ds = [] || ds.length > 3 || (ds.head? = some 0 && ds.length > 1) || ofDigits 10 ds > 255 then none
  else some ((ofDigits 10 ds).toUInt8, rest)

def after? (c : Char) : List Char → Option (List Char)
  | d :: rest => if d = c then some rest else none
  | [] => none

def v4? (cs : List Char) : Option ((UInt8 × UInt8 × UInt8 × UInt8) × List Char) := do
  let (a, cs) ← octet? cs
  let (b, cs) ← octet? (← after? '.' cs)
  let (c, cs) ← octet? (← after? '.' cs)
  let (d, cs) ← octet? (← after? '.' cs)
  return ((a, b, c, d), cs)

def group? (cs : List Char) : Option (UInt16 × List Char) :=
  let (ds, rest) := digits 16 cs
  if ds = [] || ds.length > 4 then none else some ((ofDigits 16 ds).toUInt16, rest)

def pair (a b : UInt8) : UInt16 := (a.toNat * 256 + b.toNat).toUInt16

/-- Groups in a row, at most `room` of them, each but the first after a colon. They end where
nothing more fits, and after an address of version four; the flag tells the latter. -/
def groups (first : Bool) : (room : Nat) → List Char → List UInt16 × Bool × List Char
  | 0, cs => ([], false, cs)
  | room + 1, cs =>
    match if first then some cs else after? ':' cs with
    | none => ([], false, cs)
    | some inner =>
      match if room = 0 then none else v4? inner with
      | some ((a, b, c, d), rest) => ([pair a b, pair c d], true, rest)
      | none =>
        match group? inner with
        | some (g, rest) =>
          let (gs, four, rest) := groups false room rest
          (g :: gs, four, rest)
        | none => ([], false, cs)

def ofGroups (head tail : List UInt16) : Address :=
  let all := head ++ List.replicate (8 - head.length - tail.length) 0 ++ tail
  .v6 (Vector.ofFn fun i => all.getD i 0)

def v6? (cs : List Char) : Option (Address × List Char) := do
  let (head, four, cs) := groups true 8 cs
  if head.length = 8 then return (ofGroups head [], cs)
  if four then none
  let cs ← after? ':' (← after? ':' cs)
  let (tail, _, cs) := groups true (7 - head.length) cs
  return (ofGroups head tail, cs)

def parse? (s : String) : Option Address :=
  match v4? s.toList with
  | some ((a, b, c, d), rest) => if rest = [] then some (.v4 a b c d) else none
  | none =>
    match v6? s.toList with
    | some (address, rest) => if rest = [] then some address else none
    | none => none

def isLoopback : Address → Bool
  | .v4 a _ _ _ => a == 127
  | .v6 groups => groups == #v[0, 0, 0, 0, 0, 0, 0, 1]

def zerosAt (gs : List UInt16) : Nat := (gs.takeWhile (· == 0)).length

def longestZeros : (place : Nat) → List UInt16 → Nat × Nat
  | _, [] => (0, 0)
  | place, g :: gs =>
    let (bestPlace, best) := longestZeros (place + 1) gs
    let here := zerosAt (g :: gs)
    if here ≥ best && here > 0 then (place, here) else (bestPlace, best)

def hexadecimal (gs : List UInt16) : String :=
  ":".intercalate (gs.map fun g => String.ofList (Nat.toDigits 16 g.toNat))

def dotted (a b c d : Nat) : String :=
  ".".intercalate [toString a, toString b, toString c, toString d]

/-- The groups, the first of the longest rows of two or more zeros being left out. -/
def compressed (gs : List UInt16) : String :=
  let (place, length) := longestZeros 0 gs
  if length ≥ 2 then hexadecimal (gs.take place) ++ "::" ++ hexadecimal (gs.drop (place + length))
  else hexadecimal gs

def display : Address → String
  | .v4 a b c d => dotted a.toNat b.toNat c.toNat d.toNat
  | .v6 groups =>
    match groups.toList with
    | [0, 0, 0, 0, 0, 0xFFFF, g, h] =>
      "::ffff:" ++ dotted (g.toNat / 256) (g.toNat % 256) (h.toNat / 256) (h.toNat % 256)
    | gs => compressed gs

end Address
end MissionWorker.Net
