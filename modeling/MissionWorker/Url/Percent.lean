import MissionWorker.Net.Address
import MissionWorker.Text.Utf8

namespace MissionWorker.Url.Percent

def isForeign (c : Char) : Bool := c.toNat < 0x20 || 0x7F ≤ c.toNat

def isEscapedInFragment (c : Char) : Bool := isForeign c || c ∈ [' ', '"', '<', '>', '\x60']

def isEscapedInPath (c : Char) : Bool := isEscapedInFragment c || c ∈ ['#', '?', '\x7b', '\x7d']

def isEscapedInCredentials (c : Char) : Bool :=
  isEscapedInPath c || c ∈ ['/', ':', ';', '=', '@', '[', '\\', ']', '^', '|']

def isEscapedInQuery (c : Char) : Bool := isForeign c || c ∈ [' ', '"', '#', '<', '>']

def isEscapedInSpecialQuery (c : Char) : Bool := isEscapedInQuery c || c == '\''

def digit (n : Nat) : Char := (Nat.digitChar n).toUpper

def ofByte (b : UInt8) : List Char := ['%', digit (b.toNat / 16), digit (b.toNat % 16)]

def encode (isEscaped : Char → Bool) (cs : List Char) : List Char :=
  cs.flatMap fun c => if isEscaped c then (Text.Utf8.encode c.toString).flatMap ofByte else [c]

/-- The bytes of a text; a percent sign that two digits do not follow stands for itself. -/
def decode : List Char → List UInt8
  | '%' :: a :: b :: rest =>
    match Net.Address.digit? 16 a, Net.Address.digit? 16 b with
    | some high, some low => (high * 16 + low).toUInt8 :: decode rest
    | _, _ => Text.Utf8.encode "%" ++ decode (a :: b :: rest)
  | c :: rest => Text.Utf8.encode c.toString ++ decode rest
  | [] => []

end MissionWorker.Url.Percent
