namespace MissionWorker.Decimal

def splitDigits (cs : List Char) : List Char × List Char :=
  (cs.takeWhile Char.isDigit, cs.dropWhile Char.isDigit)

def ofDigits (ds : List Char) : Nat := ds.foldl (fun n c => n * 10 + (c.toNat - '0'.toNat)) 0

def splitSign : List Char → Bool × List Char
  | '-' :: rest => (true, rest)
  | '+' :: rest => (false, rest)
  | cs => (false, cs)

def power? : List Char → Option Int
  | [] => some 0
  | c :: rest =>
    if c.toLower = 'e' then
      let (negative, rest) := splitSign rest
      match splitDigits rest with
      | (d :: ds, []) =>
        let n : Int := ofDigits (d :: ds)
        some (if negative then -n else n)
      | _ => none
    else none

/-- Powers of ten beyond this bound make no difference to so many digits. -/
def clamp (digits : Nat) (power : Int) : Int :=
  let bound : Int := digits + 400
  max (-bound) (min bound power)

def unsigned? (cs : List Char) : Option Float :=
  let (whole, rest) := splitDigits cs
  let (part, rest) := match rest with
    | '.' :: rest => splitDigits rest
    | rest => ([], rest)
  if whole = [] && part = [] then none
  else
    (power? rest).map fun power =>
      let exponent := clamp (whole.length + part.length) power - part.length
      Float.ofScientific (ofDigits (whole ++ part)) (exponent < 0) exponent.natAbs

def ofText? (s : String) : Option Float :=
  let (negative, cs) := splitSign s.toList
  let magnitude? :=
    match String.ofList (cs.map Char.toLower) with
    | "inf" | "infinity" => some (1 / 0)
    | "nan" => some (0 / 0)
    | _ => unsigned? cs
  magnitude?.map fun x => if negative then -x else x

end MissionWorker.Decimal
