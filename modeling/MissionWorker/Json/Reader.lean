import MissionWorker.Decimal.Scaling
import MissionWorker.Json.Basic
import MissionWorker.Text.Utf8

namespace MissionWorker.Json

def maxDepth : Nat := 127

namespace Reader

def isSpace (c : Char) : Bool := c == ' ' || c == '\t' || c == '\n' || c == '\r'

def skip (cs : List Char) : List Char := cs.dropWhile isSpace

def hexDigit? (c : Char) : Option Nat :=
  if '0' ≤ c ∧ c ≤ '9' then some (c.toNat - '0'.toNat)
  else if 'a' ≤ c ∧ c ≤ 'f' then some (c.toNat - 'a'.toNat + 10)
  else if 'A' ≤ c ∧ c ≤ 'F' then some (c.toNat - 'A'.toNat + 10)
  else none

def hex4? (a b c d : Char) : Option Nat := do
  return (((← hexDigit? a) * 16 + (← hexDigit? b)) * 16 + (← hexDigit? c)) * 16 + (← hexDigit? d)

def escaped? : Char → Option Char
  | '"' => some '"'
  | '\\' => some '\\'
  | '/' => some '/'
  | 'b' => some '\x08'
  | 'f' => some '\x0C'
  | 'n' => some '\n'
  | 'r' => some '\r'
  | 't' => some '\t'
  | _ => none

def string : Nat → List Char → Option (List Char × List Char)
  | 0, _ => none
  | fuel + 1, cs =>
    match cs with
    | '"' :: rest => some ([], rest)
    | '\\' :: 'u' :: a :: b :: c :: d :: rest => do
      let unit ← hex4? a b c d
      if 0xD800 ≤ unit ∧ unit ≤ 0xDBFF then
        match rest with
        | '\\' :: 'u' :: e :: f :: g :: h :: rest =>
          let low ← hex4? e f g h
          if 0xDC00 ≤ low ∧ low ≤ 0xDFFF then
            let code := 0x10000 + (unit - 0xD800) * 0x400 + (low - 0xDC00)
            let (tail, rest) ← string fuel rest
            return (Char.ofNat code :: tail, rest)
          else none
        | _ => none
      else if 0xDC00 ≤ unit ∧ unit ≤ 0xDFFF then none
      else
        let (tail, rest) ← string fuel rest
        return (Char.ofNat unit :: tail, rest)
    | '\\' :: e :: rest => do
      let c ← escaped? e
      let (tail, rest) ← string fuel rest
      return (c :: tail, rest)
    | c :: rest => do
      if c.toNat < 0x20 || c == '\\' then none
      let (tail, rest) ← string fuel rest
      return (c :: tail, rest)
    | [] => none

def digits (cs : List Char) : List Nat × List Char :=
  ((cs.takeWhile Char.isDigit).map fun c => c.toNat - '0'.toNat, cs.dropWhile Char.isDigit)

/-- The digits appended to a significand while they fit in sixty-four bits: the significand, how
many were appended, and whether one had to be dropped. -/
def appendDigits (significand appended : Nat) : List Nat → Nat × Nat × Bool
  | [] => (significand, appended, false)
  | d :: rest =>
    if significand * 10 + d < UInt64.size then appendDigits (significand * 10 + d) (appended + 1) rest
    else (significand, appended, true)

def exponent? : List Char → Option (Int × List Char)
  | [] => some (0, [])
  | c :: rest =>
    if c == 'e' || c == 'E' then
      let (negative, rest) : Bool × List Char :=
        match rest with
        | '+' :: rest => (false, rest)
        | '-' :: rest => (true, rest)
        | _ => (false, rest)
      match digits rest with
      | ([], _) => none
      | (ds, rest) =>
        let n : Nat := ds.foldl (fun n d => n * 10 + d) 0
        some (if negative then -(n : Int) else n, rest)
    else some (0, c :: rest)

def fraction? : List Char → Option (List Nat × List Char)
  | '.' :: rest =>
    match digits rest with
    | ([], _) => none
    | found => some found
  | cs => some ([], cs)

/-- A number without its sign, and what follows it. An integer literal is an integer when it fits
the signed or unsigned sixty-four bits; every other literal, negative zero among them, is a double. -/
def number (negative : Bool) (cs : List Char) : Option (Number × List Char) := do
  let (whole, afterWhole) := digits cs
  if whole = [] || (whole.head? = some 0 && whole.length ≠ 1) then none
  let (places, afterFraction) ← fraction? afterWhole
  let (power, rest) ← exponent? afterFraction
  let (significand, kept, dropped) := appendDigits 0 0 whole
  if !dropped && afterWhole.length = rest.length && !(negative && significand = 0) &&
      (!negative || significand ≤ UInt64.size / 2) then
    return (.int (if negative then -(significand : Int) else significand), rest)
  let (significand, keptPlaces, _) := appendDigits significand 0 places
  let scale : Int := (whole.length - kept : Nat) - (keptPlaces : Int) + power
  let x ← Decimal.toFloat? significand.toUInt64 scale
  return (.float (if negative then -x else x), rest)

mutual

def value (depth : Nat) : Nat → List Char → Option (Json × List Char)
  | 0, _ => none
  | fuel + 1, cs =>
    match skip cs with
    | 'n' :: 'u' :: 'l' :: 'l' :: rest => some (null, rest)
    | 't' :: 'r' :: 'u' :: 'e' :: rest => some (bool true, rest)
    | 'f' :: 'a' :: 'l' :: 's' :: 'e' :: rest => some (bool false, rest)
    | '"' :: rest => do
      let (s, rest) ← string (rest.length + 1) rest
      return (text (String.ofList s), rest)
    | '-' :: rest => do
      let (n, rest) ← number true rest
      return (Json.number n, rest)
    | '[' :: rest =>
      if depth = 0 then none
      else match skip rest with
        | ']' :: rest => some (array [], rest)
        | rest => do
          let (xs, rest) ← items (depth - 1) fuel rest
          return (array xs, rest)
    | '{' :: rest =>
      if depth = 0 then none
      else match skip rest with
        | '}' :: rest => some (object [], rest)
        | rest => do
          let (ms, rest) ← members (depth - 1) fuel rest
          return (ofMembers ms, rest)
    | rest => do
      let (n, rest) ← number false rest
      return (Json.number n, rest)

def items (depth : Nat) : Nat → List Char → Option (List Json × List Char)
  | 0, _ => none
  | fuel + 1, cs => do
    let (x, rest) ← value depth fuel cs
    match skip rest with
    | ',' :: rest =>
      let (xs, rest) ← items depth fuel rest
      return (x :: xs, rest)
    | ']' :: rest => return ([x], rest)
    | _ => none

def members (depth : Nat) : Nat → List Char → Option (Members × List Char)
  | 0, _ => none
  | fuel + 1, cs =>
    match skip cs with
    | '"' :: rest => do
      let (name, rest) ← string (rest.length + 1) rest
      match skip rest with
      | ':' :: rest =>
        let (v, rest) ← value depth fuel rest
        match skip rest with
        | ',' :: rest =>
          let (ms, rest) ← members depth fuel rest
          return ((String.ofList name, v) :: ms, rest)
        | '}' :: rest => return ([(String.ofList name, v)], rest)
        | _ => none
      | _ => none
    | _ => none

end

end Reader

def parse? (s : String) : Option Json := do
  let cs := s.toList
  let (v, rest) ← Reader.value maxDepth (2 * cs.length + 2) cs
  if Reader.skip rest = [] then some v else none

def parseBytes? (bytes : List UInt8) : Option Json := Text.Utf8.decode? bytes >>= parse?

end MissionWorker.Json
