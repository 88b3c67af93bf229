import MissionWorker.Net.Address
import MissionWorker.Url.Domain
import MissionWorker.Url.Error
import MissionWorker.Url.Percent

namespace MissionWorker.Url

inductive Host where
  | name (s : List Char)
  | address (a : Net.Address)
  deriving DecidableEq

namespace Host

open Net (Address)

def display : Host → List Char
  | .name s => s
  | .address (.v4 a b c d) => (Address.dotted a.toNat b.toNat c.toNat d.toNat).toList
  | .address (.v6 groups) => '[' :: (Address.compressed groups.toList).toList ++ [']']

/-- A number in one of three notations, which a leading zero, followed by an x or not, tells. -/
def number? : List Char → Option Nat
  | [] => none
  | ['0'] => some 0
  | '0' :: 'x' :: ds | '0' :: 'X' :: ds => read 16 ds
  | '0' :: ds => read 8 ds
  | ds => read 10 ds
where
  read (base : Nat) (cs : List Char) : Option Nat :=
    let (ds, rest) := Address.digits base cs
    if rest = [] then some (Address.ofDigits base ds) else none

def parts (domain : List Char) : List (List Char) :=
  let ls := Domain.labels domain
  if ls.length > 1 && ls.getLast? = some [] then ls.dropLast else ls

/-- Whether the last label is a number, so that the name must be an address. -/
def endsInNumber (domain : List Char) : Bool :=
  match (parts domain).getLast? with
  | some last => (last ≠ [] && last.all Char.isDigit) || (number? last).isSome
  | none => false

def weight (behind : Nat) : Nat := Nat.pow 256 behind

/-- The address of version four with that place among all. -/
def ofNumber (n : Nat) : Address :=
  .v4 (n / weight 3).toUInt8 (n / weight 2).toUInt8 (n / weight 1).toUInt8 n.toUInt8

/-- The address of version four that a name is: one to four numbers, of which the last fills what the
others leave. -/
def four? (domain : List Char) : Option Address := do
  let ns ← (parts domain).mapM number?
  let last ← ns.getLast?
  let leading := ns.dropLast
  if leading.length > 3 || leading.any (255 < ·) || weight (4 - leading.length) ≤ last then none
  return ofNumber (leading.zipIdx.foldl (fun sum (n, i) => sum + n * weight (3 - i)) last)

/-- The pieces of an address of version six, as many as there is room for, and those after the place
where zeros are left out, if there is one. Such a place takes up the room of one piece. -/
def pieces : (room : Nat) → (whole : Bool) → List Char → Option (List UInt16 × Option (List UInt16))
  | _, _, [] => some ([], none)
  | 0, _, _ :: _ => none
  | room + 1, whole, c :: cs =>
    if c = ':' then
      if whole then (pieces room false cs).map fun (after, _) => ([], some after) else none
    else
      let (ds, rest) := Address.digits 16 (c :: cs)
      if ds = [] || ds.length > 4 then none
      else
        match rest with
        | [] => some ([(Address.ofDigits 16 ds).toUInt16], none)
        | '.' :: _ =>
          -- The last two pieces may be written as an address of version four.
          match Address.v4? (c :: cs) with
          | some ((a, b, c, d), []) =>
            if room = 0 then none else some ([Address.pair a b, Address.pair c d], none)
          | _ => none
        | [':'] => none
        | ':' :: next =>
          (pieces room whole next).map fun (before, after) =>
            ((Address.ofDigits 16 ds).toUInt16 :: before, after)
        | _ => none

def six? (cs : List Char) : Option Address :=
  let read :=
    match cs with
    | ':' :: ':' :: rest => (pieces 7 false rest).map fun (after, _) => ([], some after)
    | ':' :: _ => none
    | cs => pieces 8 true cs
  match read with
  | some (before, some after) => some (Address.ofGroups before after)
  | some (before, none) => if before.length = 8 then some (Address.ofGroups before []) else none
  | none => none

def readBracketed (cs : List Char) : Except Error Host :=
  if cs.getLast? = some ']' then
    match six? cs.dropLast with
    | some a => .ok (.address a)
    | none => .error .badSix
  else .error .badSix

def readSpecial : List Char → Except Error Host
  | '[' :: rest => readBracketed rest
  | cs =>
    match Domain.ascii? (Percent.decode cs) with
    | none => .error .badDomain
    | some [] => .error .emptyHost
    | some domain =>
      if endsInNumber domain then
        match four? domain with
        | some a => .ok (.address a)
        | none => .error .badFour
      else .ok (.name domain)

def isForbidden (c : Char) : Bool :=
  c ∈ ['\x00', '\t', '\n', '\r', ' ', '#', '/', ':', '<', '>', '?', '@', '[', '\\', ']', '^', '|']

def readPlain : List Char → Except Error Host
  | '[' :: rest => readBracketed rest
  | cs =>
    if cs.any isForbidden then .error .badHostCharacter
    else .ok (.name (Percent.encode Percent.isForeign cs))

end Host
end MissionWorker.Url
