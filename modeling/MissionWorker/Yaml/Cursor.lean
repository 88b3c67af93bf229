namespace MissionWorker.Yaml

def isBreak (c : Char) : Bool :=
  c == '\n' || c == '\r' || c == '\u0085' || c == '\u2028' || c == '\u2029'

def isSpace (c : Char) : Bool := c == ' ' || c == '\t'

def isWord (c : Char) : Bool := c.isAlphanum || c == '_' || c == '-'

def isAllowed (c : Char) : Bool :=
  let n := c.toNat
  n == 0x09 || n == 0x0A || n == 0x0D || (0x20 ≤ n && n ≤ 0x7E) || n == 0x85 ||
    (0xA0 ≤ n && n ≤ 0xFFFD) || 0x10000 ≤ n

structure Cursor where
  rest : List Char
  index : Nat := 0
  line : Nat := 0
  column : Nat := 0

namespace Cursor

def ahead (c : Cursor) (n : Nat) : Option Char := c.rest[n]?

def next (c : Cursor) : Option Char := c.rest.head?

def sees (c : Cursor) (n : Nat) (x : Char) : Bool := c.ahead n == some x

def endsAt (c : Cursor) (n : Nat) : Bool :=
  match c.ahead n with
  | none => true
  | some x => isSpace x || isBreak x

def skip (n : Nat) (c : Cursor) : Cursor :=
  { c with rest := c.rest.drop n, index := c.index + n, column := c.column + n }

def takeWhile (p : Char → Bool) (c : Cursor) : List Char × Cursor :=
  let taken := c.rest.takeWhile p
  (taken, c.skip taken.length)

def skipWhile (p : Char → Bool) (c : Cursor) : Cursor := (c.takeWhile p).2

def skipLine (c : Cursor) : Cursor := c.skipWhile (!isBreak ·)

def newLine (n : Nat) (c : Cursor) : Cursor :=
  { rest := c.rest.drop n, index := c.index + n, line := c.line + 1, column := 0 }

def takeBreak? (c : Cursor) : Option (List Char × Cursor) :=
  match c.rest with
  | '\r' :: '\n' :: _ => some (['\n'], c.newLine 2)
  | x :: _ =>
    if x == '\n' || x == '\r' || x == '\u0085' then some (['\n'], c.newLine 1)
    else if isBreak x then some ([x], c.newLine 1)
    else none
  | [] => none

/-- Whether a marker of documents, three times the same character, stands alone at the beginning
of this line. -/
def marks (c : Cursor) (x : Char) : Bool :=
  c.column == 0 && c.sees 0 x && c.sees 1 x && c.sees 2 x && c.endsAt 3

def atMarker (c : Cursor) : Bool := c.marks '-' || c.marks '.'

def finishLine? (c : Cursor) : Option Cursor :=
  let c := c.skipWhile isSpace
  let c := if c.sees 0 '#' then c.skipLine else c
  match c.takeBreak? with
  | some (_, c) => some c
  | none => if c.rest = [] then some c else none

end Cursor
end MissionWorker.Yaml
