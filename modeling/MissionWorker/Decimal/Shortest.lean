namespace MissionWorker

structure Decimal where
  coefficient : Nat
  exponent : Int
  deriving DecidableEq, Repr

namespace Decimal

def twoTo (n : Nat) : Nat := Nat.pow 2 n

def tenTo (n : Nat) : Nat := Nat.pow 10 n

structure Binary where
  mantissa : Nat
  exponent : Int
  deriving DecidableEq, Repr

def Binary.ofBits (bits : UInt64) : Binary :=
  let field : Nat := (bits.toNat / twoTo 52) % twoTo 11
  let fraction : Nat := bits.toNat % twoTo 52
  if field = 0 then ⟨fraction, -1074⟩ else ⟨fraction + twoTo 52, (field : Int) - 1075⟩

/-- The double's interval in quarters of its last binary place: lower midpoint, the double itself,
upper midpoint. Below a power of two the lower neighbour is twice as near. -/
def Binary.quarters (b : Binary) : Nat × Nat × Nat :=
  let lower := if b.mantissa = twoTo 52 ∧ b.exponent > -1074 then 1 else 2
  (4 * b.mantissa - lower, 4 * b.mantissa, 4 * b.mantissa + 2)

/-- How many digits stand before the decimal point, negative for zeros after it: `10^(n-1) ≤ b < 10^n`. -/
def Binary.magnitude (b : Binary) : Int :=
  let shift : Nat := 350
  let scaled :=
    if b.exponent ≥ 0 then b.mantissa * twoTo b.exponent.toNat * tenTo shift
    else b.mantissa * tenTo shift / twoTo (-b.exponent).toNat
  (Nat.toDigits 10 scaled).length - (shift : Int)

/-- The point with that many digits which reads back as `b`, the nearer one if both neighbours do. -/
def Binary.onGrid? (b : Binary) (digits : Nat) : Option Decimal :=
  let k := b.magnitude - digits
  let (low, mid, high) := b.quarters
  -- quarters and grid points are compared as multiples of one unit
  let quarter := twoTo (b.exponent - 2).toNat * tenTo (-k).toNat
  let step := tenTo k.toNat * twoTo (2 - b.exponent).toNat
  let below := mid * quarter / step
  let inside (c : Nat) : Bool :=
    if b.mantissa % 2 = 0 then low * quarter ≤ c * step ∧ c * step ≤ high * quarter
    else low * quarter < c * step ∧ c * step < high * quarter
  match inside below, inside (below + 1) with
  | true, true =>
    let doubled := 2 * (mid * quarter)
    let middle := (2 * below + 1) * step
    if doubled < middle ∨ (doubled = middle ∧ below % 2 = 0) then some ⟨below, k⟩
    else some ⟨below + 1, k⟩
  | true, false => some ⟨below, k⟩
  | false, true => some ⟨below + 1, k⟩
  | false, false => none

def stripZeros : Nat → Decimal → Decimal
  | 0, d => d
  | fuel + 1, d =>
    if d.coefficient ≠ 0 ∧ d.coefficient % 10 = 0 then
      stripZeros fuel ⟨d.coefficient / 10, d.exponent + 1⟩
    else d

/-- The shortest decimal of the magnitude of a finite double: the fewest digits that read back as the
same double, and of those the decimal nearest to it. -/
def shortest (x : Float) : Decimal :=
  let b := Binary.ofBits x.toBits
  if b.mantissa = 0 then ⟨0, 0⟩
  else
    match (List.range 17).findSome? fun n => b.onGrid? (n + 1) with
    | some d => stripZeros 18 d
    | none => ⟨b.mantissa, b.exponent⟩

end Decimal
end MissionWorker
