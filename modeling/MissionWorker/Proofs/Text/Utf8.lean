import MissionWorker.Text.Utf8

namespace MissionWorker

theorem mapM_of_forall {α β : Type} {f : α → Option β} {g : α → β} {xs : List α}
    (each : ∀ x ∈ xs, f x = some (g x)) : xs.mapM f = some (xs.map g) := by
  induction xs with
  | nil => rfl
  | cons x xs ih =>
    obtain ⟨first, later⟩ := List.forall_mem_cons.mp each
    simp [first, ih later]

namespace Text.Utf8

variable {b low high : UInt8} {bits lacking : Nat} {rest : List UInt8}

theorem begin?_two (least : 0xC2 ≤ b.toNat) (most : b.toNat ≤ 0xDF) :
    begin? b = some ⟨1, 0x80, 0xBF, b.toNat % 32⟩ := by
  simp [begin?, UInt8.le_iff_toNat_le, least, most]

theorem begin?_three (least : 0xE0 ≤ b.toNat) (most : b.toNat ≤ 0xEF) :
    begin? b = some ⟨2, if b.toNat = 0xE0 then 0xA0 else 0x80, if b.toNat = 0xED then 0x9F else 0xBF,
      b.toNat % 16⟩ := by
  have beyond : ¬b.toNat ≤ 0xDF := by omega
  by_cases first : b.toNat = 0xE0
  · simp [begin?, UInt8.le_iff_toNat_le, ← UInt8.toNat_inj, first]
  · by_cases surrogate : b.toNat = 0xED
    · simp [begin?, UInt8.le_iff_toNat_le, ← UInt8.toNat_inj, surrogate]
    · have from' : 0xE1 ≤ b.toNat := by omega
      simp [begin?, UInt8.le_iff_toNat_le, ← UInt8.toNat_inj, beyond, first, surrogate, from', most]

theorem begin?_four (least : 0xF0 ≤ b.toNat) (most : b.toNat ≤ 0xF4) :
    begin? b = some ⟨3, if b.toNat = 0xF0 then 0x90 else 0x80, if b.toNat = 0xF4 then 0x8F else 0xBF,
      b.toNat % 8⟩ := by
  have cases : b.toNat = 0xF0 ∨ b.toNat = 0xF1 ∨ b.toNat = 0xF2 ∨ b.toNat = 0xF3 ∨ b.toNat = 0xF4 := by
    omega
  rcases cases with known | known | known | known | known
  all_goals simp [begin?, UInt8.le_iff_toNat_le, ← UInt8.toNat_inj, known]

theorem scan_ascii (ascii : b.toNat < 0x80) :
    scan none (b :: rest) = some (Char.ofNat b.toNat) :: scan none rest := by
  have below : b < 0x80 := UInt8.lt_iff_toNat_lt.mpr ascii
  simp [scan, start, below]

theorem scan_begin {begun : Begun} (beyond : 0x80 ≤ b.toNat) (begins : begin? b = some begun) :
    scan none (b :: rest) = scan (some begun) rest := by
  have not : ¬b < 0x80 := by
    rw [UInt8.lt_iff_toNat_lt]
    exact Nat.not_lt.mpr beyond
  simp [scan, start, not, begins]

theorem scan_last (least : low.toNat ≤ b.toNat) (most : b.toNat ≤ high.toNat) :
    scan (some ⟨1, low, high, bits⟩) (b :: rest) =
      some (Char.ofNat (bits * 64 + b.toNat % 64)) :: scan none rest := by
  simp [scan, resume, UInt8.le_iff_toNat_le, least, most]

theorem scan_more (least : low.toNat ≤ b.toNat) (most : b.toNat ≤ high.toNat) :
    scan (some ⟨lacking + 2, low, high, bits⟩) (b :: rest) =
      scan (some ⟨lacking + 1, 0x80, 0xBF, bits * 64 + b.toNat % 64⟩) rest := by
  simp [scan, resume, UInt8.le_iff_toNat_le, least, most]

variable {w x y z : UInt8} {v : Nat}

/-- A byte in the middle of a character carries six bits of it. -/
theorem middle {n : Nat} (byte : b.toNat = n % 64 + 0x80) :
    (0x80 : UInt8).toNat ≤ b.toNat ∧ b.toNat ≤ (0xBF : UInt8).toNat ∧ b.toNat % 64 = n % 64 := by
  have low : (0x80 : UInt8).toNat = 128 := rfl
  have high : (0xBF : UInt8).toNat = 191 := rfl
  omega

theorem scan_two (least : 0x80 ≤ v) (most : v < 0x800) (first : w.toNat = v / 64 + 0xC0)
    (second : x.toNat = v % 64 + 0x80) :
    scan none (w :: x :: rest) = some (Char.ofNat v) :: scan none rest := by
  obtain ⟨low, high, carried⟩ := middle second
  have whole : w.toNat % 32 * 64 + v % 64 = v := by omega
  rw [scan_begin (by omega) (begin?_two (by omega) (by omega)), scan_last low high, carried, whole]

theorem scan_three (least : 0x800 ≤ v) (most : v < 0x10000) (scalar : v < 0xD800 ∨ 0xDFFF < v)
    (first : w.toNat = v / 4096 + 0xE0) (second : x.toNat = v / 64 % 64 + 0x80)
    (third : y.toNat = v % 64 + 0x80) :
    scan none (w :: x :: y :: rest) = some (Char.ofNat v) :: scan none rest := by
  obtain ⟨_, _, carried⟩ := middle second
  obtain ⟨low, high, last⟩ := middle third
  -- Of the second byte less is allowed where shorter forms or surrogates would come of more.
  have above : (if w.toNat = 0xE0 then 0xA0 else 0x80 : UInt8).toNat ≤ x.toNat := by
    simp only [apply_ite UInt8.toNat, UInt8.reduceToNat]
    split <;> omega
  have below : x.toNat ≤ (if w.toNat = 0xED then 0x9F else 0xBF : UInt8).toNat := by
    simp only [apply_ite UInt8.toNat, UInt8.reduceToNat]
    split <;> omega
  have whole : (w.toNat % 16 * 64 + v / 64 % 64) * 64 + v % 64 = v := by omega
  rw [scan_begin (by omega) (begin?_three (by omega) (by omega)), scan_more above below,
    scan_last low high, carried, last, whole]

theorem scan_four (least : 0x10000 ≤ v) (most : v < 0x110000)
    (first : w.toNat = v / 262144 + 0xF0) (second : x.toNat = v / 4096 % 64 + 0x80)
    (third : y.toNat = v / 64 % 64 + 0x80) (fourth : z.toNat = v % 64 + 0x80) :
    scan none (w :: x :: y :: z :: rest) = some (Char.ofNat v) :: scan none rest := by
  obtain ⟨_, _, carried⟩ := middle second
  obtain ⟨low', high', carried'⟩ := middle third
  obtain ⟨low, high, last⟩ := middle fourth
  have above : (if w.toNat = 0xF0 then 0x90 else 0x80 : UInt8).toNat ≤ x.toNat := by
    simp only [apply_ite UInt8.toNat, UInt8.reduceToNat]
    split <;> omega
  have below : x.toNat ≤ (if w.toNat = 0xF4 then 0x8F else 0xBF : UInt8).toNat := by
    simp only [apply_ite UInt8.toNat, UInt8.reduceToNat]
    split <;> omega
  have whole : ((w.toNat % 8 * 64 + v / 4096 % 64) * 64 + v / 64 % 64) * 64 + v % 64 = v := by omega
  rw [scan_begin (by omega) (begin?_four (by omega) (by omega)), scan_more above below,
    scan_more low' high', scan_last low high, carried, carried', last, whole]

theorem scan_character (c : Char) (rest : List UInt8) :
    scan none (String.utf8EncodeChar c ++ rest) = some c :: scan none rest := by
  have scalar : c.toNat < 0xD800 ∨ 0xDFFF < c.toNat ∧ c.toNat < 0x110000 := c.valid
  have value : c.val.toNat = c.toNat := rfl
  have byte {n : Nat} (small : n < 256) : (UInt8.ofNat n).toNat = n := UInt8.toNat_ofNat_of_lt' small
  have read : scan none (String.utf8EncodeChar c ++ rest) =
      some (Char.ofNat c.toNat) :: scan none rest := by
    simp only [String.utf8EncodeChar, value]
    generalize c.toNat = v at scalar
    split
    · have whole := byte (n := v) (by omega)
      rw [List.cons_append, List.nil_append, scan_ascii (by omega), whole]
    split
    · apply scan_two (by omega) (by omega)
      · rw [byte (by omega)]
        omega
      · exact byte (by omega)
    split
    · apply scan_three (by omega) (by omega) (by omega)
      · rw [byte (by omega)]
        omega
      · exact byte (by omega)
      · exact byte (by omega)
    · apply scan_four (by omega) (by omega)
      · rw [byte (by omega)]
        omega
      · exact byte (by omega)
      · exact byte (by omega)
      · exact byte (by omega)
  rwa [Char.ofNat_toNat] at read

theorem scan_characters (cs : List Char) :
    scan none (cs.flatMap String.utf8EncodeChar) = cs.map some := by
  induction cs with
  | nil => rfl
  | cons c cs ih => rw [List.flatMap_cons, scan_character, ih, List.map_cons]

theorem toList_loop (bytes : ByteArray) (i : Nat) (listed : List UInt8) :
    ByteArray.toList.loop bytes i listed = listed.reverse ++ bytes.data.toList.drop i := by
  induction i, listed using ByteArray.toList.loop.induct bytes with
  | case1 i listed within ih =>
    have inside : i < bytes.data.toList.length := by simpa using within
    have here : bytes.get! i = bytes.data.toList[i] := by
      have found : bytes.get! i = bytes.data[i]! := rfl
      rw [found, getElem!_pos bytes.data i within, Array.getElem_toList]
    rw [ByteArray.toList.loop, if_pos within, ih, here, List.drop_eq_getElem_cons inside]
    simp
  | case2 i listed beyond =>
    have past : bytes.data.toList.length ≤ i := by simpa using Nat.le_of_not_lt beyond
    rw [ByteArray.toList.loop, if_neg beyond, List.drop_eq_nil_of_le past, List.append_nil]

theorem encode_eq_flatMap (s : String) : encode s = s.toList.flatMap String.utf8EncodeChar := by
  have written : s.toUTF8 = s.toList.utf8Encode := by
    rw [← String.toByteArray_ofList, String.ofList_toList]
    rfl
  rw [encode, written, ByteArray.toList, toList_loop, List.drop_zero, List.reverse_nil,
    List.nil_append, List.utf8Encode, List.toList_data_toByteArray]

theorem decode?_of_scan {bytes : List UInt8} {cs : List Char} (scanned : scan none bytes = cs.map some) :
    decode? bytes = some (String.ofList cs) := by
  have every : (cs.map some).mapM id = some (cs.map id) := by
    rw [List.mapM_map]
    exact mapM_of_forall fun _ _ => rfl
  rw [decode?, scanned, every, List.map_id, Option.map_some]

theorem decode?_of_ascii {bytes : List UInt8} (ascii : ∀ b ∈ bytes, b < 0x80) :
    decode? bytes = some (String.ofList (bytes.map fun b => Char.ofNat b.toNat)) := by
  apply decode?_of_scan
  induction bytes with
  | nil => rfl
  | cons b rest ih =>
    obtain ⟨first, later⟩ := List.forall_mem_cons.mp ascii
    rw [scan_ascii (UInt8.lt_iff_toNat_lt.mp first), ih later, List.map_cons, List.map_cons]

@[simp]
theorem decode?_encode (s : String) : decode? (encode s) = some s := by
  have scanned := scan_characters s.toList
  rw [← encode_eq_flatMap] at scanned
  rw [decode?_of_scan scanned, String.ofList_toList]

end Text.Utf8
end MissionWorker
