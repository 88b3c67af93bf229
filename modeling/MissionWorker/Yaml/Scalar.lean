import MissionWorker.Yaml.Cursor

namespace MissionWorker.Yaml

inductive Style where
  | plain
  | singleQuoted
  | doubleQuoted
  | literal
  | folded
  deriving DecidableEq

namespace Scalar

/-- Blanks and breaks between two words: the blanks before a break, the first break, and those
after it. -/
structure Gap where
  blanks : List Char := []
  first : List Char := []
  more : List Char := []
  broken : Bool := false

/-- What a gap leaves in the text. A single break becomes a blank, and of several the first is
dropped; breaks other than the ordinary one do not fold. -/
def Gap.text (g : Gap) : List Char :=
  if g.broken then
    if g.first = ['\n'] then (if g.more = [] then [' '] else g.more) else g.first ++ g.more
  else g.blanks

/-- Reads a gap on. Before the column `limit` no tab may stand at the beginning of a line. -/
def gap (limit : Nat) : (fuel : Nat) → Gap → Cursor → Option (Gap × Cursor)
  | 0, g, c => some (g, c)
  | fuel + 1, g, c =>
    match c.next with
    | none => some (g, c)
    | some x =>
      if isSpace x then
        if g.broken then
          if x == '\t' && c.column < limit then none else gap limit fuel g (c.skip 1)
        else gap limit fuel { g with blanks := g.blanks ++ [x] } (c.skip 1)
      else
        match c.takeBreak? with
        | none => some (g, c)
        | some (text, c) =>
          if g.broken then gap limit fuel { g with more := g.more ++ text } c
          else gap limit fuel { first := text, broken := true } c

def isFlowIndicator (c : Char) : Bool :=
  c == ',' || c == '[' || c == ']' || c == '\x7b' || c == '\x7d'

/-- The characters of a plain word, and the place after it. A colon ends the word where a blank
follows; in flow collections so do their indicators, and no colon may stand before one. -/
def plainWord (flow : Bool) : (fuel : Nat) → Cursor → Option (List Char × Cursor)
  | 0, c => some ([], c)
  | fuel + 1, c =>
    match c.next with
    | none => some ([], c)
    | some x =>
      if isSpace x || isBreak x then some ([], c)
      else
        let before := c.ahead 1
        if flow && x == ':' && (before.any isFlowIndicator || before == some '?') then none
        else if (x == ':' && c.endsAt 1) || (flow && isFlowIndicator x) then some ([], c)
        else do
          let (word, c) ← plainWord flow fuel (c.skip 1)
          return (x :: word, c)

/-- A plain scalar, the place after it, and whether a line break was the last thing read. Outside
of flow collections its lines start at the column `limit` or later. -/
def plain (flow : Bool) (limit : Nat) :
    (fuel : Nat) → (pending : Gap) → Cursor → Option (List Char × Bool × Cursor)
  | 0, _, _ => none
  | fuel + 1, pending, c =>
    if c.atMarker || c.sees 0 '#' then some ([], pending.broken, c)
    else do
      let (word, c) ← plainWord flow c.rest.length c
      let (text, pending) := if word = [] then ([], pending) else (pending.text ++ word, {})
      if !(c.next.any fun x => isSpace x || isBreak x) then
        return (text, pending.broken, c)
      let (pending, c) ← gap limit c.rest.length pending c
      if !flow && c.column < limit then return (text, pending.broken, c)
      let (tail, broken, c) ← plain flow limit fuel pending c
      return (text ++ tail, broken, c)

def hexDigit? (c : Char) : Option Nat :=
  if '0' ≤ c ∧ c ≤ '9' then some (c.toNat - '0'.toNat)
  else if 'a' ≤ c ∧ c ≤ 'f' then some (c.toNat - 'a'.toNat + 10)
  else if 'A' ≤ c ∧ c ≤ 'F' then some (c.toNat - 'A'.toNat + 10)
  else none

def hex? (n : Nat) (cs : List Char) : Option Nat := do
  let ds ← (cs.take n).mapM hexDigit?
  if ds.length = n then some (ds.foldl (fun v d => v * 16 + d) 0) else none

def escaped? : Char → Option Char
  | '0' => some '\x00'
  | 'a' => some '\x07'
  | 'b' => some '\x08'
  | 't' => some '\t'
  | '\t' => some '\t'
  | 'n' => some '\n'
  | 'v' => some '\x0B'
  | 'f' => some '\x0C'
  | 'r' => some '\r'
  | 'e' => some '\x1B'
  | ' ' => some ' '
  | '"' => some '"'
  | '/' => some '/'
  | '\\' => some '\\'
  | 'N' => some '\u0085'
  | '_' => some '\u00A0'
  | 'L' => some '\u2028'
  | 'P' => some '\u2029'
  | _ => none

def codeLength? : Char → Option Nat
  | 'x' => some 2
  | 'u' => some 4
  | 'U' => some 8
  | _ => none

def escape? (cs : List Char) : Option (Char × Nat) := do
  let letter ← cs.head?
  match codeLength? letter with
  | some n =>
    let code ← hex? n (cs.drop 1)
    if (0xD800 ≤ code ∧ code ≤ 0xDFFF) ∨ code > 0x10FFFF then none
    else some (Char.ofNat code, n + 1)
  | none => return (← escaped? letter, 1)

def quotedWord (single : Bool) : (fuel : Nat) → Cursor → Option (List Char × Bool × Cursor)
  | 0, c => some ([], false, c)
  | fuel + 1, c =>
    match c.next with
    | none => some ([], false, c)
    | some x =>
      if isSpace x || isBreak x then some ([], false, c)
      else if single && x == '\'' && c.sees 1 '\'' then do
        let (word, broken, c) ← quotedWord single fuel (c.skip 2)
        return ('\'' :: word, broken, c)
      else if x == (if single then '\'' else '"') then some ([], false, c)
      else if !single && x == '\\' then
        match (c.skip 1).takeBreak? with
        | some (_, c) => some ([], true, c)
        | none => do
          let (y, n) ← escape? (c.rest.drop 1)
          let (word, broken, c) ← quotedWord single fuel (c.skip (n + 1))
          return (y :: word, broken, c)
      else do
        let (word, broken, c) ← quotedWord single fuel (c.skip 1)
        return (x :: word, broken, c)

def quoted (single : Bool) : (fuel : Nat) → Cursor → Option (List Char × Cursor)
  | 0, _ => none
  | fuel + 1, c =>
    if c.atMarker || c.rest = [] then none
    else do
      let (word, broken, c) ← quotedWord single c.rest.length c
      if c.sees 0 (if single then '\'' else '"') then return (word, c.skip 1)
      let (g, c) ← gap 0 c.rest.length { broken } c
      let (tail, c) ← quoted single fuel c
      return (word ++ g.text ++ tail, c)

inductive Chomping where
  | strip
  | clip
  | keep
  deriving DecidableEq

def chomping? (c : Cursor) : Option Chomping :=
  if c.sees 0 '+' then some .keep else if c.sees 0 '-' then some .strip else none

def indentation? (c : Cursor) : Option Nat :=
  match c.next with
  | some x => if x.isDigit then some (x.toNat - '0'.toNat) else none
  | none => none

def blockHead? (c : Cursor) : Option (Chomping × Option Nat × Cursor) :=
  let (chomping, c) : Option Chomping × Cursor :=
    match chomping? c with
    | some k => (some k, c.skip 1)
    | none => (none, c)
  match indentation? c with
  | none => some (chomping.getD .clip, none, c)
  | some 0 => none
  | some n =>
    let c := c.skip 1
    match chomping with
    | some k => some (k, some n, c)
    | none =>
      match chomping? c with
      | some k => some (k, some n, c.skip 1)
      | none => some (.clip, some n, c)

/-- The breaks of empty lines, the greatest indentation on the way, and the place after them.
Indentation is blanks up to the column `indent`, or any, as long as it is not known. -/
def emptyLines (indent : Option Nat) :
    (fuel : Nat) → (greatest : Nat) → Cursor → Option (List Char × Nat × Cursor)
  | 0, greatest, c => some ([], greatest, c)
  | fuel + 1, greatest, c =>
    let room := match indent with
      | some n => n - c.column
      | none => c.rest.length
    let blanks := ((c.rest.take room).takeWhile (· == ' ')).length
    let c := c.skip blanks
    let greatest := max greatest c.column
    let within := match indent with
      | some n => c.column < n
      | none => true
    if within && c.sees 0 '\t' then none
    else
      match c.takeBreak? with
      | none => some ([], greatest, c)
      | some (text, c) => do
        let (texts, greatest, c) ← emptyLines indent fuel greatest c
        return (text ++ texts, greatest, c)

/-- The lines of a block. `first` is the break of the line before, `more` the breaks of the empty
lines after it, and `led` tells whether that line began with a blank. -/
def blockLines (literal : Bool) (chomping : Chomping) (indent : Nat) :
    (fuel : Nat) → (first more : List Char) → (led : Bool) → Cursor → Option (List Char × Cursor)
  | 0, _, _, _, _ => none
  | fuel + 1, first, more, led, c =>
    if c.column ≠ indent || c.rest = [] then
      some ((if chomping = .strip then [] else first) ++ (if chomping = .keep then more else []), c)
    else do
      let blank := c.next.any isSpace
      let folds := !literal && first = ['\n'] && !led && !blank
      let joint := if folds then (if more = [] then [' '] else []) else first
      let (line, c) := c.takeWhile (!isBreak ·)
      let (first, c) := c.takeBreak?.getD ([], c)
      let (nextMore, _, c) ← emptyLines (some indent) (c.rest.length + 1) 0 c
      let (tail, c) ← blockLines literal chomping indent fuel first nextMore blank c
      return (joint ++ more ++ line ++ tail, c)

/-- A scalar in a block, after its indicator, and the place after it. `parent` is the indentation
around it, less than nothing at the top. -/
def block (literal : Bool) (parent : Int) (c : Cursor) : Option (List Char × Cursor) := do
  let (chomping, given, c) ← blockHead? c
  let c ← c.finishLine?
  let known := given.map fun n => if parent ≥ 0 then parent.toNat + n else n
  let (more, greatest, c) ← emptyLines known (c.rest.length + 1) 0 c
  let indent := known.getD (max (max greatest (parent + 1).toNat) 1)
  blockLines literal chomping indent (c.rest.length + 1) [] more false c

end Scalar
end MissionWorker.Yaml
