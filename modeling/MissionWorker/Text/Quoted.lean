import MissionWorker.Text.Printable

namespace MissionWorker.Text.Quoted

def letterEscape? : Char → Option Char
  | '\n' => some 'n'
  | '\r' => some 'r'
  | '\t' => some 't'
  | '\x00' => some '0'
  | _ => none

def codePoint (c : Char) : List Char :=
  '\\' :: 'u' :: '\x7b' :: (Nat.toDigits 16 c.toNat ++ ['\x7d'])

/-- A character inside the quotes, `quote` telling which characters a backslash protects. -/
def escape (quote : Char → Bool) (c : Char) : List Char :=
  match letterEscape? c with
  | some letter => ['\\', letter]
  | none => if quote c then ['\\', c] else if isShown c then [c] else codePoint c

def text (s : String) : String :=
  String.ofList ('"' :: (s.toList.flatMap (escape fun c => c == '"' || c == '\\') ++ ['"']))

def path (s : String) : String :=
  String.ofList ('"' ::
    (s.toList.flatMap (escape fun c => c == '"' || c == '\\' || c == '\'') ++ ['"']))

end MissionWorker.Text.Quoted
