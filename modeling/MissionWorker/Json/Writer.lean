import MissionWorker.Decimal.Layout
import MissionWorker.Json.Basic

namespace MissionWorker.Json

namespace Writer

def hexDigit (n : Nat) : Char := (Nat.digitChar n)

/-- A character inside a string: quotes, backslashes and control characters are escaped, nothing else. -/
def escape (c : Char) : List Char :=
  match c with
  | '"' => ['\\', '"']
  | '\\' => ['\\', '\\']
  | '\x08' => ['\\', 'b']
  | '\x0C' => ['\\', 'f']
  | '\n' => ['\\', 'n']
  | '\r' => ['\\', 'r']
  | '\t' => ['\\', 't']
  | c =>
    if c.toNat < 0x20 then ['\\', 'u', '0', '0', hexDigit (c.toNat / 16), hexDigit (c.toNat % 16)]
    else [c]

def quoted (s : String) : String :=
  String.ofList ('"' :: (s.toList.flatMap escape ++ ['"']))

def number : Number → String
  | .int n => toString n
  | .float x => Decimal.Layout.document.render x

def newline (level : Nat) : String := String.ofList ('\n' :: List.replicate (2 * level) ' ')

mutual

def value : Json → String
  | null => "null"
  | bool true => "true"
  | bool false => "false"
  | Json.number n => number n
  | text s => quoted s
  | array xs => "[" ++ String.intercalate "," (items xs) ++ "]"
  | object ms => "\x7b" ++ String.intercalate "," (members ms) ++ "\x7d"

def items : List Json → List String
  | [] => []
  | x :: xs => value x :: items xs

def members : List (String × Json) → List String
  | [] => []
  | (n, v) :: ms => (quoted n ++ ":" ++ value v) :: members ms

end

mutual

def indented (level : Nat) : Json → String
  | array (x :: xs) =>
    "[" ++ newline (level + 1) ++
      String.intercalate ("," ++ newline (level + 1)) (indentedItems (level + 1) (x :: xs)) ++
      newline level ++ "]"
  | object (m :: ms) =>
    "\x7b" ++ newline (level + 1) ++
      String.intercalate ("," ++ newline (level + 1)) (indentedMembers (level + 1) (m :: ms)) ++
      newline level ++ "\x7d"
  | v => value v

def indentedItems (level : Nat) : List Json → List String
  | [] => []
  | x :: xs => indented level x :: indentedItems level xs

def indentedMembers (level : Nat) : List (String × Json) → List String
  | [] => []
  | (n, v) :: ms => (quoted n ++ ": " ++ indented level v) :: indentedMembers level ms

end

end Writer

def compact (v : Json) : String := Writer.value v

def pretty (v : Json) : String := Writer.indented 0 v

end MissionWorker.Json
