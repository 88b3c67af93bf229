namespace MissionWorker.Decimal

def powerOfTen (n : Nat) : Float := Float.ofScientific 1 false n

def greatestPower : Nat := 308

def scaleDown (x : Float) (n : Nat) : Float :=
  if n ≤ greatestPower then x / powerOfTen n
  else if x == 0 then x
  else scaleDown (x / powerOfTen greatestPower) (n - greatestPower)
  termination_by n
  decreasing_by simp [greatestPower] at *; omega

/-- The double `digits · 10^exponent` by one multiplication or division of doubles, so perhaps a
neighbour of the nearest one; `none` when it is too large. -/
def toFloat? (digits : UInt64) (exponent : Int) : Option Float :=
  let x := digits.toFloat
  if exponent < 0 then some (scaleDown x exponent.natAbs)
  else if x == 0 then some x
  else if exponent ≤ greatestPower then
    let scaled := x * powerOfTen exponent.toNat
    if scaled.isInf then none else some scaled
  else none

end MissionWorker.Decimal
