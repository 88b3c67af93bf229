namespace MissionWorker.Text

def isBlank (c : Char) : Bool :=
  let n := c.toNat
  (0x09 ≤ n && n ≤ 0x0D) || n == 0x20 || n == 0x85 || n == 0xA0 || n == 0x1680 ||
    (0x2000 ≤ n && n ≤ 0x200A) || n == 0x2028 || n == 0x2029 || n == 0x202F || n == 0x205F ||
    n == 0x3000

def stripEnd {α : Type} (p : α → Bool) (cs : List α) : List α :=
  (cs.reverse.dropWhile p).reverse

def strip {α : Type} (p : α → Bool) (cs : List α) : List α := stripEnd p (cs.dropWhile p)

def trimmed (s : String) : String := String.ofList (strip isBlank s.toList)

def isBlankText (s : String) : Bool := s.toList.all isBlank

/-- ASCII letters in lower case, all else as it is. That is enough wherever the result is compared
with keywords that no other character lowers into. -/
def lowered (s : String) : String := String.ofList (s.toList.map Char.toLower)

end MissionWorker.Text
