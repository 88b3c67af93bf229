import MissionWorker.Text.Utf8
import MissionWorker.Yaml.Scalar

namespace MissionWorker.Yaml

inductive Token where
  | version (major minor : Nat)
  | shorthand (handle stands : List Char)
  | documentStart
  | documentEnd
  | blockSequence
  | blockMapping
  | blockEnd
  | flowSequence
  | flowSequenceEnd
  | flowMapping
  | flowMappingEnd
  | flowEntry
  | blockEntry
  | key
  | value
  | alias (name : List Char)
  | anchor (name : List Char)
  | tag (handle rest : List Char)
  | scalar (text : List Char) (style : Style)
  deriving DecidableEq

namespace Token

/-- A place where a mapping key may have begun. A key is known only by the colon after it, and has to
be short and on one line. -/
structure Candidate where
  place : Nat
  index : Nat
  line : Nat
  column : Nat
  required : Bool

structure Scan where
  cursor : Cursor
  indent : Int := -1
  outer : List Int := []
  keyAllowed : Bool := true
  candidate : Option Candidate := none
  around : List (Option Candidate) := []
  tokens : Array Token := #[]

namespace Scan

def inFlow (s : Scan) : Bool := !s.around.isEmpty

def push (t : Token) (s : Scan) : Scan := { s with tokens := s.tokens.push t }

def goTo (c : Cursor) (s : Scan) : Scan := { s with cursor := c }

def allowKey (allowed : Bool) (s : Scan) : Scan := { s with keyAllowed := allowed }

def indicator (t : Token) (s : Scan) : Scan := (s.goTo (s.cursor.skip 1)).push t

/-- Gives up a candidate; `none` if it had to be a key. -/
def dropCandidate? (s : Scan) : Option Scan :=
  if s.candidate.any (·.required) then none else some { s with candidate := none }

def saveCandidate? (s : Scan) : Option Scan :=
  if s.keyAllowed then do
    let s ← s.dropCandidate?
    return { s with candidate := some {
      place := s.tokens.size
      index := s.cursor.index
      line := s.cursor.line
      column := s.cursor.column
      required := !s.inFlow && s.indent == s.cursor.column } }
  else some s

def isStale (c : Cursor) (k : Candidate) : Bool := k.line < c.line || k.index + 1024 < c.index

/-- The candidate, if it can still be a key; the outer option fails if it must, and cannot. -/
def refresh? (c : Cursor) : Option Candidate → Option (Option Candidate)
  | none => some none
  | some k => if isStale c k then (if k.required then none else some none) else some (some k)

def dropStale? (s : Scan) : Option Scan := do
  let candidate ← refresh? s.cursor s.candidate
  let around ← s.around.mapM (refresh? s.cursor)
  return { s with candidate, around }

def openBlock (column : Nat) (place : Nat) (t : Token) (s : Scan) : Scan :=
  if !s.inFlow && s.indent < column then
    { s with
      outer := s.indent :: s.outer
      indent := column
      tokens := s.tokens.insertIdxIfInBounds place t }
  else s

def closeBlocks (column : Int) (s : Scan) : Scan :=
  if s.inFlow then s
  else close s.indent s.outer s.tokens
where
  close (indent : Int) : List Int → Array Token → Scan
    | [], tokens => { s with indent, outer := [], tokens }
    | next :: outer, tokens =>
      if indent > column then close next outer (tokens.push .blockEnd)
      else { s with indent, outer := next :: outer, tokens }

/-- Past blanks, comments and line breaks. Tabs are blanks only where no key may begin. -/
def toNext : (fuel : Nat) → Scan → Scan
  | 0, s => s
  | fuel + 1, s =>
    let tabs := s.inFlow || !s.keyAllowed
    let c := s.cursor.skipWhile fun x => x == ' ' || (tabs && x == '\t')
    let c := if c.sees 0 '#' then c.skipLine else c
    match c.takeBreak? with
    | some (_, c) => toNext fuel { s with cursor := c, keyAllowed := s.keyAllowed || !s.inFlow }
    | none => s.goTo c

def finishDocument? (s : Scan) : Option Scan := do
  return ((← (s.closeBlocks (-1)).dropCandidate?).allowKey false)

def versionNumber? (c : Cursor) : Option (Nat × Cursor) :=
  let (ds, c) := c.takeWhile Char.isDigit
  if ds = [] || ds.length > 9 then none
  else some (ds.foldl (fun n d => n * 10 + (d.toNat - '0'.toNat)) 0, c)

def tagHandle? (directive : Bool) (c : Cursor) : Option (List Char × Cursor) :=
  if c.sees 0 '!' then
    let (word, c) := (c.skip 1).takeWhile isWord
    if c.sees 0 '!' then some ('!' :: word ++ ['!'], c.skip 1)
    else if directive && word ≠ [] then none
    else some ('!' :: word, c)
  else none

def isTagChar (verbatim : Bool) (x : Char) : Bool :=
  isWord x || ";/?:@&=+$.!~*'()".toList.contains x || (verbatim && (x == ',' || x == '[' || x == ']'))

def escapedByte? : List Char → Option UInt8
  | '%' :: a :: b :: _ => (Scalar.hex? 2 [a, b]).map Nat.toUInt8
  | _ => none

def byteCount? (b : UInt8) : Option Nat :=
  if b < 0x80 then some 1
  else if b &&& 0xE0 == 0xC0 then some 2
  else if b &&& 0xF0 == 0xE0 then some 3
  else if b &&& 0xF8 == 0xF0 then some 4
  else none

def escapedChar? (c : Cursor) : Option (List Char × Cursor) := do
  let first ← escapedByte? c.rest
  let n ← byteCount? first
  let bytes ← (List.range n).mapM fun i => escapedByte? (c.rest.drop (3 * i))
  if (bytes.drop 1).all fun b => b &&& 0xC0 == 0x80 then
    return ((Text.Utf8.decodeLossy bytes).toList, c.skip (3 * n))
  else none

def tagChars (verbatim : Bool) : (fuel : Nat) → Cursor → Option (List Char × Cursor)
  | 0, c => some ([], c)
  | fuel + 1, c =>
    match c.next with
    | none => some ([], c)
    | some x =>
      if x == '%' then do
        let (text, c) ← escapedChar? c
        let (rest, c) ← tagChars verbatim fuel c
        return (text ++ rest, c)
      else if isTagChar verbatim x then do
        let (rest, c) ← tagChars verbatim fuel (c.skip 1)
        return (x :: rest, c)
      else some ([], c)

def someTagChars? (verbatim : Bool) (c : Cursor) : Option (List Char × Cursor) := do
  let (text, c) ← tagChars verbatim c.rest.length c
  if text = [] then none else return (text, c)

def tag? (c : Cursor) : Option (Token × Cursor) :=
  if c.sees 1 '<' then do
    let (rest, c) ← someTagChars? true (c.skip 2)
    if c.sees 0 '>' then return (.tag [] rest, c.skip 1) else none
  else do
    let (handle, after) ← tagHandle? false c
    if handle.length > 1 && handle.getLast? == some '!' then
      let (rest, c) ← someTagChars? false after
      return (.tag handle rest, c)
    else
      let (more, c) ← tagChars false after.rest.length after
      let rest := handle.drop 1 ++ more
      return (if rest = [] then .tag [] ['!'] else .tag ['!'] rest, c)

def directive? (s : Scan) : Option Scan := do
  let s ← s.finishDocument?
  let (name, c) := (s.cursor.skip 1).takeWhile isWord
  if name = [] || !c.endsAt 0 then none
  let c := c.skipWhile isSpace
  if name = "YAML".toList then
    let (major, c) ← versionNumber? c
    if !c.sees 0 '.' then none
    let (minor, c) ← versionNumber? (c.skip 1)
    return (s.goTo (← c.finishLine?)).push (.version major minor)
  else if name = "TAG".toList then
    let (handle, c) ← tagHandle? true c
    if !(c.next.any isSpace) then none
    let (stands, c) ← someTagChars? true (c.skipWhile isSpace)
    if !c.endsAt 0 then none
    return (s.goTo (← c.finishLine?)).push (.shorthand handle stands)
  else none

def marker? (t : Token) (s : Scan) : Option Scan := do
  let s ← s.finishDocument?
  return (s.goTo (s.cursor.skip 3)).push t

def openFlow? (t : Token) (s : Scan) : Option Scan := do
  let s ← s.saveCandidate?
  return { s with candidate := none, around := s.candidate :: s.around, keyAllowed := true }.indicator t

def closeFlow? (t : Token) (s : Scan) : Option Scan := do
  let s ← s.dropCandidate?
  let s := match s.around with
    | outer :: around => { s with candidate := outer, around }
    | [] => s
  return (s.allowKey false).indicator t

def takeComma? (s : Scan) : Option Scan := do
  return ((← s.dropCandidate?).allowKey true).indicator .flowEntry

def blockHere? (t : Token) (s : Scan) : Option Scan :=
  if s.inFlow then some s
  else if s.keyAllowed then some (s.openBlock s.cursor.column s.tokens.size t)
  else none

def takeDash? (s : Scan) : Option Scan := do
  return ((← (← s.blockHere? .blockSequence).dropCandidate?).allowKey true).indicator .blockEntry

def takeQuestion? (s : Scan) : Option Scan := do
  let s ← (← s.blockHere? .blockMapping).dropCandidate?
  return (s.allowKey !s.inFlow).indicator .key

/-- A colon after a key, or where a key is left out. -/
def takeColon? (s : Scan) : Option Scan :=
  match s.candidate with
  | some k =>
    let s := { s with tokens := s.tokens.insertIdxIfInBounds k.place .key }
    let s := s.openBlock k.column k.place .blockMapping
    some ({ s with candidate := none, keyAllowed := false }.indicator .value)
  | none => do
    let s ← s.blockHere? .blockMapping
    return (s.allowKey !s.inFlow).indicator .value

def name? (make : List Char → Token) (s : Scan) : Option Scan := do
  let s ← s.saveCandidate?
  let (name, c) := (s.cursor.skip 1).takeWhile isWord
  if name = [] || !(c.endsAt 0 || c.next.any "?:,]\x7d%@`".toList.contains) then none
  return ((s.allowKey false).goTo c).push (make name)

def taken? (s : Scan) : Option Scan := do
  let s ← s.saveCandidate?
  let (t, c) ← tag? s.cursor
  if c.endsAt 0 || (s.inFlow && c.sees 0 ',') then
    return ((s.allowKey false).goTo c).push t
  else none

def blockScalar? (literal : Bool) (s : Scan) : Option Scan := do
  let s ← s.dropCandidate?
  let (text, c) ← Scalar.block literal s.indent (s.cursor.skip 1)
  return ((s.allowKey true).goTo c).push (.scalar text (if literal then .literal else .folded))

def quotedScalar? (single : Bool) (s : Scan) : Option Scan := do
  let s ← s.saveCandidate?
  let c := s.cursor.skip 1
  let (text, c) ← Scalar.quoted single (c.rest.length + 1) c
  return ((s.allowKey false).goTo c).push
    (.scalar text (if single then .singleQuoted else .doubleQuoted))

def plainScalar? (s : Scan) : Option Scan := do
  let s ← s.saveCandidate?
  let (text, broken, c) ←
    Scalar.plain s.inFlow (s.indent + 1).toNat (s.cursor.rest.length + 1) {} s.cursor
  return ((s.allowKey broken).goTo c).push (.scalar text .plain)

def startsPlain (s : Scan) : Bool :=
  match s.cursor.next with
  | none => false
  | some x =>
    !(isSpace x || isBreak x || "-?:,[]\x7b\x7d#&*!|>'\"%@`".toList.contains x) ||
      (x == '-' && !(s.cursor.ahead 1).any isSpace) ||
      (!s.inFlow && (x == '?' || x == ':') && !s.cursor.endsAt 1)

def token? (x : Char) (s : Scan) : Option Scan :=
  let c := s.cursor
  if c.column == 0 && x == '%' then s.directive?
  else if c.marks '-' then s.marker? .documentStart
  else if c.marks '.' then s.marker? .documentEnd
  else if x == '[' then s.openFlow? .flowSequence
  else if x == '\x7b' then s.openFlow? .flowMapping
  else if x == ']' then s.closeFlow? .flowSequenceEnd
  else if x == '\x7d' then s.closeFlow? .flowMappingEnd
  else if x == ',' then s.takeComma?
  else if x == '-' && c.endsAt 1 then s.takeDash?
  else if x == '?' && (s.inFlow || c.endsAt 1) then s.takeQuestion?
  else if x == ':' && (s.inFlow || c.endsAt 1) then s.takeColon?
  else if x == '*' then s.name? .alias
  else if x == '&' then s.name? .anchor
  else if x == '!' then s.taken?
  else if x == '|' && !s.inFlow then s.blockScalar? true
  else if x == '>' && !s.inFlow then s.blockScalar? false
  else if x == '\'' then s.quotedScalar? true
  else if x == '"' then s.quotedScalar? false
  else if s.startsPlain then s.plainScalar?
  else none

def tokens? : (fuel : Nat) → Scan → Option (Array Token)
  | 0, _ => none
  | fuel + 1, s => do
    let s ← (s.toNext (s.cursor.rest.length + 1)).dropStale?
    let s := s.closeBlocks s.cursor.column
    match s.cursor.next with
    | none => return (← s.finishDocument?).tokens
    | some x => tokens? fuel (← s.token? x)

end Scan

def withoutMarks (cs : List Char) : List Char :=
  match cs with
  | '\uFEFF' :: '\uFEFF' :: rest => rest
  | '\uFEFF' :: rest => rest
  | cs => cs

def scan? (s : String) : Option (List Token) :=
  let cs := withoutMarks s.toList
  if cs.all isAllowed then
    (Scan.tokens? (cs.length + 1) { cursor := { rest := cs } }).map Array.toList
  else none

end Token
end MissionWorker.Yaml
