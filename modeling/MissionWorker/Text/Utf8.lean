namespace MissionWorker.Text.Utf8

def replacement : Char := '\uFFFD'

/-- A character begun but not complete: how many bytes it still lacks, the least and the greatest
value the next of them may have, and the bits read so far. -/
structure Begun where
  lacking : Nat
  least : UInt8
  greatest : UInt8
  bits : Nat

def begin? (b : UInt8) : Option Begun :=
  if 0xC2 ≤ b && b ≤ 0xDF then some ⟨1, 0x80, 0xBF, b.toNat % 32⟩
  else if b == 0xE0 then some ⟨2, 0xA0, 0xBF, b.toNat % 16⟩
  else if b == 0xED then some ⟨2, 0x80, 0x9F, b.toNat % 16⟩
  else if 0xE1 ≤ b && b ≤ 0xEF then some ⟨2, 0x80, 0xBF, b.toNat % 16⟩
  else if b == 0xF0 then some ⟨3, 0x90, 0xBF, b.toNat % 8⟩
  else if b == 0xF4 then some ⟨3, 0x80, 0x8F, b.toNat % 8⟩
  else if 0xF1 ≤ b && b ≤ 0xF3 then some ⟨3, 0x80, 0xBF, b.toNat % 8⟩
  else none

def start (b : UInt8) : List (Option Char) × Option Begun :=
  if b < 0x80 then ([some (Char.ofNat b.toNat)], none)
  else match begin? b with
    | some begun => ([], some begun)
    | none => ([none], none)

def resume (begun : Begun) (b : UInt8) : List (Option Char) × Option Begun :=
  if begun.least ≤ b && b ≤ begun.greatest then
    let bits := begun.bits * 64 + b.toNat % 64
    if begun.lacking ≤ 1 then ([some (Char.ofNat bits)], none)
    else ([], some ⟨begun.lacking - 1, 0x80, 0xBF, bits⟩)
  else
    let (found, next) := start b
    (none :: found, next)

/-- The characters of the bytes after what is begun, `none` where bytes form no character. Bytes that
begin a character and are cut short count together, up to the first that cannot continue it. -/
def scan : Option Begun → List UInt8 → List (Option Char)
  | none, [] => []
  | some _, [] => [none]
  | none, b :: rest => (start b).1 ++ scan (start b).2 rest
  | some begun, b :: rest => (resume begun b).1 ++ scan (resume begun b).2 rest

def decode? (bytes : List UInt8) : Option String :=
  ((scan none bytes).mapM id).map String.ofList

def decodeLossy (bytes : List UInt8) : String :=
  String.ofList ((scan none bytes).map (·.getD replacement))

def encode (s : String) : List UInt8 := s.toUTF8.toList

end MissionWorker.Text.Utf8
