namespace MissionWorker.Url.Punycode

/-- The code point that counting begins with, and the bias. -/
def firstCode : Nat := 128
def firstBias : Nat := 72

def digit (n : Nat) : Char :=
  if n < 26 then Char.ofNat ('a'.toNat + n) else Char.ofNat ('0'.toNat + n - 26)

def digit? (c : Char) : Option Nat :=
  if 'a' ≤ c ∧ c ≤ 'z' then some (c.toNat - 'a'.toNat)
  else if 'A' ≤ c ∧ c ≤ 'Z' then some (c.toNat - 'A'.toNat)
  else if '0' ≤ c ∧ c ≤ '9' then some (c.toNat - '0'.toNat + 26)
  else none

/-- The threshold of a digit at a position, which is a multiple of the base: a smaller digit is the
last. -/
def threshold (position bias : Nat) : Nat :=
  if position ≤ bias then 1 else if bias + 26 ≤ position then 26 else position - bias

theorem threshold_pos (position bias : Nat) : 1 ≤ threshold position bias := by
  unfold threshold; split <;> try split
  all_goals omega

def scale (distance counted : Nat) : Nat × Nat :=
  if 455 < distance then scale (distance / 35) (counted + 36) else (distance, counted)
termination_by distance
decreasing_by exact Nat.div_lt_self (by omega) (by omega)

/-- The bias after a distance, the name then having so many characters. -/
def adapt (distance length : Nat) (first : Bool) : Nat :=
  let distance := if first then distance / 700 else distance / 2
  let (rest, counted) := scale (distance + distance / length) 0
  counted + 36 * rest / (rest + 38)

def number (bias : Nat) (position n : Nat) : List Char :=
  if n < threshold position bias then [digit n]
  else
    let t := threshold position bias
    digit (t + (n - t) % (36 - t)) :: number bias (position + 36) ((n - t) / (36 - t))
termination_by n
decreasing_by
  have := threshold_pos position bias
  have : (n - threshold position bias) / (36 - threshold position bias) ≤ n - threshold position bias :=
    Nat.div_le_self _ _
  omega

/-- A name being written: how far the insertion is from the last one, the bias, and how many
characters are written. -/
structure Writing where
  out : List Char
  distance : Nat
  bias : Nat
  length : Nat

def pass (code ascii : Nat) (w : Writing) (c : Char) : Writing :=
  if c.toNat < code then { w with distance := w.distance + 1 }
  else if c.toNat = code then
    { out := w.out ++ number w.bias 36 w.distance
      distance := 0
      bias := adapt w.distance (w.length + 1) (w.length == ascii)
      length := w.length + 1 }
  else w

/-- Inserts the characters of each code point, `code` being the one that counting is at. -/
def insertAll (name : List Char) (ascii : Nat) : (codes : List Nat) → (code : Nat) → Writing → Writing
  | [], _, w => w
  | next :: codes, code, w =>
    let w := name.foldl (pass next ascii)
      { w with distance := w.distance + (next - code) * (w.length + 1) }
    insertAll name ascii codes (next + 1) { w with distance := w.distance + 1 }

def encode (name : List Char) : List Char :=
  let ascii := name.filter (·.toNat < firstCode)
  let codes := ((name.map Char.toNat).filter (firstCode ≤ ·)).eraseDups.mergeSort
  let start : Writing := ⟨[], 0, firstBias, ascii.length⟩
  ascii ++ (if ascii = [] then [] else ['-']) ++ (insertAll name ascii.length codes firstCode start).out

/-- A name being read: its characters so far, the place and the code point of the next insertion,
and the number being read with the weight and the position of its next digit. -/
structure Reading where
  out : List Char
  place : Nat := 0
  code : Nat := firstCode
  bias : Nat := firstBias
  number : Nat := 0
  weight : Nat := 1
  position : Nat := 36

def Reading.take? (r : Reading) (c : Char) : Option Reading := do
  let d ← digit? c
  let t := threshold r.position r.bias
  let n := r.number + d * r.weight
  if t ≤ d then
    return { r with number := n, weight := r.weight * (36 - t), position := r.position + 36 }
  else
    let length := r.out.length + 1
    let code := r.code + (r.place + n) / length
    let place := (r.place + n) % length
    if h : code.isValidChar then
      return {
        out := r.out.insertIdx place (Char.ofNatAux code h), place := place + 1, code
        bias := adapt n length (r.place == 0) }
    else none

def splitAtLastHyphen (cs : List Char) : List Char × List Char :=
  if cs.contains '-' then
    let (after, before) := cs.reverse.span (· != '-')
    ((before.drop 1).reverse, after.reverse)
  else ([], cs)

def decode? (cs : List Char) : Option (List Char) := do
  let (ascii, numbers) := splitAtLastHyphen cs
  if ascii.any (firstCode ≤ ·.toNat) then none
  let r ← numbers.foldlM Reading.take? { out := ascii }
  if r.position = 36 then return r.out else none

end MissionWorker.Url.Punycode
