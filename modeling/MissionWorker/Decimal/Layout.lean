import MissionWorker.Decimal.Shortest

namespace MissionWorker.Decimal

structure Layout where
  positional : Int → Bool
  whole : String
  notANumber : String
  infinity : String

/-- Places are written out from a hundred-thousandth to sixteen digits; whole numbers keep a zero
after the point, and an exponent always has a sign. -/
def Layout.document : Layout where
  positional e := -5 ≤ e && e < 16
  whole := ".0"
  notANumber := "null"
  infinity := "null"

/-- Every place is written out, and whole numbers stand without a point. -/
def Layout.plain : Layout where
  positional _ := true
  whole := ""
  notANumber := "NaN"
  infinity := "inf"

def zeros (n : Nat) : List Char := List.replicate n '0'

def Layout.written (l : Layout) (d : Decimal) : List Char :=
  let digits := Nat.toDigits 10 d.coefficient
  let before := (digits.length : Int) + d.exponent
  if d.exponent ≥ 0 then digits ++ zeros d.exponent.toNat ++ l.whole.toList
  else if before > 0 then digits.take before.toNat ++ '.' :: digits.drop before.toNat
  else '0' :: '.' :: zeros (-before).toNat ++ digits

def Layout.scaled (d : Decimal) (power : Int) : List Char :=
  let digits := Nat.toDigits 10 d.coefficient
  let fraction := digits.drop 1
  digits.take 1 ++ (if fraction = [] then [] else '.' :: fraction) ++
    'e' :: (if power < 0 then '-' else '+') :: Nat.toDigits 10 power.natAbs

def Layout.render (l : Layout) (x : Float) : String :=
  if x.isNaN then l.notANumber
  else
    let sign := if x.toBits ≥ 0x8000000000000000 then ['-'] else []
    if x.isInf then String.ofList (sign ++ l.infinity.toList)
    else
      let d := shortest x
      let power := (Nat.toDigits 10 d.coefficient).length + d.exponent - 1
      String.ofList (sign ++ if l.positional power then l.written d else Layout.scaled d power)

end MissionWorker.Decimal
