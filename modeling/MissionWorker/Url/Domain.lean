import MissionWorker.Text.Folding
import MissionWorker.Text.Printable
import MissionWorker.Text.Utf8
import MissionWorker.Url.Punycode

namespace MissionWorker.Url.Domain

def isForbidden (c : Char) : Bool :=
  c.toNat ≤ 0x20 || c.toNat = 0x7F ||
    c ∈ ['%', '#', '/', ':', '<', '>', '?', '@', '[', '\\', ']', '^', '|']

def isIgnored (c : Char) : Bool :=
  let n := c.toNat
  n = 0xAD || n = 0x200B || n = 0x2060 || n = 0x2064 || n = 0xFEFF || (0xFE00 ≤ n && n ≤ 0xFE0F)

/-- The usual form of a character, and nothing for one that a name may not have. -/
def usual? (c : Char) : Option (List Char) :=
  let n := c.toNat
  if n < 0x80 then some [c.toLower]
  else if isIgnored c then some []
  else if n = 0x3002 || n = 0xFF61 then some ['.']
  else if 0xFF01 ≤ n && n ≤ 0xFF5E then some [(Char.ofNat (n - 0xFEE0)).toLower]
  else if n = 0xA0 || n = 0x3000 then some [' ']
  else if Text.isShown c || (0x300 ≤ n && n < 0x370) then some [Text.folded c]
  else none

def lead : List Char := ['x', 'n', '-', '-']

def labels : List Char → List (List Char)
  | [] => [[]]
  | '.' :: rest => [] :: labels rest
  | c :: rest =>
    match labels rest with
    | [] => [[c]]
    | label :: more => (c :: label) :: more

/-- Whether what a label in punycode says needs punycode, and is in its usual form. -/
def isWellSpelled (name : List Char) : Bool :=
  name.any (0x80 ≤ ·.toNat) && name.all fun c => usual? c == some [c] && !isForbidden c

def asciiLabel? (label : List Char) : Option (List Char) :=
  if lead.isPrefixOf label then
    match Punycode.decode? (label.drop lead.length) with
    | some name => if isWellSpelled name && label.getLast? != some '-' then some label else none
    | none => none
  else if label.any (0x80 ≤ ·.toNat) then some (lead ++ Punycode.encode label)
  else some label

def ascii? (bytes : List UInt8) : Option (List Char) := do
  let given ← Text.Utf8.decode? bytes
  let name := (← given.toList.mapM usual?).flatten
  if name.any isForbidden then none
  let all ← (labels name).mapM asciiLabel?
  return ['.'].intercalate all

end MissionWorker.Url.Domain
