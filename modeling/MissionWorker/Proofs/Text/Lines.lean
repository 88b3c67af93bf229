import MissionWorker.Proofs.Text.Utf8

namespace MissionWorker.Text
namespace Utf8

variable {a b : UInt8} {begun : Begun} {state : Option Begun} {bytes : List UInt8}

/-- What is begun is continued by no ASCII byte, and comes to no ASCII character. -/
structure Begun.Beyond (begun : Begun) : Prop where
  least : 0x80 ≤ begun.least.toNat
  carried : 2 ≤ begun.bits ∨ 2 ≤ begun.lacking ∧
    (1 ≤ begun.bits ∨ 0x90 ≤ begun.least.toNat ∧ begun.greatest.toNat ≤ 0xBF)

theorem begin?_beyond (begins : begin? b = some begun) : begun.Beyond := by
  simp only [begin?, Bool.and_eq_true, decide_eq_true_eq, beq_iff_eq, UInt8.le_iff_toNat_le,
    ← UInt8.toNat_inj, UInt8.reduceToNat] at begins
  repeat' split at begins
  all_goals cases begins
  all_goals
    constructor
    · simp
    · simp only [UInt8.reduceToNat]
      omega

def readByte : Option Begun → UInt8 → List (Option Char) × Option Begun
  | none, b => start b
  | some begun, b => resume begun b

theorem scan_cons (state : Option Begun) (b : UInt8) (rest : List UInt8) :
    scan state (b :: rest) = (readByte state b).1 ++ scan (readByte state b).2 rest := by
  cases state <;> rfl

theorem start_beyond (begins : (start b).2 = some begun) : begun.Beyond := by
  unfold start at begins
  split at begins
  · cases begins
  · split at begins
    · rename_i known
      cases begins
      exact begin?_beyond known
    · cases begins

theorem resume_value (beyond : begun.Beyond) (within : begun.least ≤ b ∧ b ≤ begun.greatest) :
    2 ≤ begun.bits * 64 + b.toNat % 64 := by
  obtain ⟨least, carried⟩ := beyond
  have above := UInt8.le_iff_toNat_le.mp within.1
  have below := UInt8.le_iff_toNat_le.mp within.2
  omega

theorem readByte_beyond (beyond : ∀ begun ∈ state, begun.Beyond) :
    ∀ begun ∈ (readByte state b).2, begun.Beyond := by
  intro next follows
  cases state with
  | none => exact start_beyond follows
  | some begun =>
    have before := beyond begun rfl
    simp only [readByte, resume, Bool.and_eq_true, decide_eq_true_eq] at follows
    split at follows
    · rename_i within
      have value := resume_value before within
      split at follows
      · cases follows
      · cases follows
        exact ⟨by simp, .inl value⟩
    · exact start_beyond follows

theorem scan_append_ascii (ascii : a.toNat < 0x80) (beyond : ∀ begun ∈ state, begun.Beyond)
    (before after : List UInt8) :
    scan state (before ++ a :: after) =
      scan state before ++ some (Char.ofNat a.toNat) :: scan none after := by
  induction before generalizing state with
  | nil =>
    cases state with
    | none => exact scan_ascii ascii
    | some begun =>
      have least := (beyond begun rfl).least
      have outside : ¬begun.least ≤ a := by
        rw [UInt8.le_iff_toNat_le]
        omega
      have below : a < 0x80 := UInt8.lt_iff_toNat_lt.mpr ascii
      simp [scan, resume, outside, start, below]
  | cons b before ih =>
    rw [List.cons_append, scan_cons, ih (readByte_beyond beyond), scan_cons, List.append_assoc]

theorem toNat_ofNat_of_valid {n : Nat} (valid : n.isValidChar) : (Char.ofNat n).toNat = n := by
  rw [Char.ofNat, dif_pos valid]
  rfl

theorem toNat_ofNat_of_invalid {n : Nat} (invalid : ¬n.isValidChar) : (Char.ofNat n).toNat = 0 := by
  rw [Char.ofNat, dif_neg invalid]
  rfl

theorem toNat_ofNat_ascii (ascii : a.toNat < 0x80) : (Char.ofNat a.toNat).toNat = a.toNat :=
  toNat_ofNat_of_valid (.inl (by omega))

/-- NUL is left aside: `Char.ofNat` also gives it for what is no character, and whether it is ever asked
for that is another question. -/
theorem eq_of_ofNat_eq {n : Nat} (ascii : a.toNat < 0x80) (named : a ≠ 0)
    (same : Char.ofNat n = Char.ofNat a.toNat) : n = a.toNat := by
  have value : (Char.ofNat n).toNat = a.toNat := by rw [same, toNat_ofNat_ascii ascii]
  by_cases valid : n.isValidChar
  · rwa [toNat_ofNat_of_valid valid] at value
  · rw [toNat_ofNat_of_invalid valid] at value
    exact absurd (UInt8.toNat_inj.mp value.symm) named

theorem mem_start (ascii : a.toNat < 0x80) (named : a ≠ 0)
    (read : some (Char.ofNat a.toNat) ∈ (start b).1) : b = a := by
  unfold start at read
  split at read
  · have same := Option.some.inj (List.mem_singleton.mp read)
    exact UInt8.toNat_inj.mp (eq_of_ofNat_eq ascii named same.symm)
  · split at read <;> simp at read

theorem mem_readByte (ascii : a.toNat < 0x80) (named : a ≠ 0)
    (beyond : ∀ begun ∈ state, begun.Beyond)
    (read : some (Char.ofNat a.toNat) ∈ (readByte state b).1) : b = a := by
  cases state with
  | none => exact mem_start ascii named read
  | some begun =>
    simp only [readByte, resume, Bool.and_eq_true, decide_eq_true_eq] at read
    split at read
    · split at read
      · rename_i complete
        -- Two bits carried make the character at least 0x80.
        have carried := (beyond begun rfl).carried
        have value := eq_of_ofNat_eq ascii named (Option.some.inj (List.mem_singleton.mp read)).symm
        omega
      · cases read
    · simp only [List.mem_cons, reduceCtorEq, false_or] at read
      exact mem_start ascii named read

theorem mem_of_mem_scan (ascii : a.toNat < 0x80) (named : a ≠ 0)
    (beyond : ∀ begun ∈ state, begun.Beyond)
    (read : some (Char.ofNat a.toNat) ∈ scan state bytes) : a ∈ bytes := by
  induction bytes generalizing state with
  | nil => cases state <;> simp [scan] at read
  | cons b rest ih =>
    rw [scan_cons, List.mem_append] at read
    rcases read with here | later
    · exact mem_readByte ascii named beyond here ▸ List.mem_cons_self
    · exact List.mem_cons_of_mem b (ih (readByte_beyond beyond) later)

theorem readByte_silent (silent : (readByte state b).1 = []) : (readByte state b).2 ≠ none := by
  cases state with
  | none =>
    revert silent
    simp only [readByte, start]
    split
    · simp
    · split <;> simp
  | some begun =>
    revert silent
    simp only [readByte, resume]
    split
    · split <;> simp
    · simp

theorem scan_eq_nil_iff : scan state bytes = [] ↔ state = none ∧ bytes = [] := by
  induction bytes generalizing state with
  | nil => cases state <;> simp [scan]
  | cons b rest ih =>
    rw [scan_cons, List.append_eq_nil_iff, ih]
    constructor
    · rintro ⟨silent, between, _⟩
      exact absurd between (readByte_silent silent)
    · rintro ⟨_, nothing⟩
      cases nothing

def characters (bytes : List UInt8) : List Char := (decodeLossy bytes).toList

theorem characters_eq (bytes : List UInt8) :
    characters bytes = (scan none bytes).map (·.getD replacement) := by
  rw [characters, decodeLossy, String.toList_ofList]

theorem characters_eq_nil_iff : characters bytes = [] ↔ bytes = [] := by
  rw [characters_eq, List.map_eq_nil_iff, scan_eq_nil_iff]
  simp

theorem characters_append_ascii (ascii : a.toNat < 0x80) (before after : List UInt8) :
    characters (before ++ a :: after) =
      characters before ++ Char.ofNat a.toNat :: characters after := by
  simp only [characters_eq]
  rw [scan_append_ascii ascii (by simp), List.map_append, List.map_cons, Option.getD_some]

theorem mem_of_mem_characters (ascii : a.toNat < 0x80) (named : a ≠ 0)
    (read : Char.ofNat a.toNat ∈ characters bytes) : a ∈ bytes := by
  rw [characters_eq, List.mem_map] at read
  obtain ⟨found, scanned, same⟩ := read
  cases found with
  | some c =>
    cases same
    exact mem_of_mem_scan ascii named (by simp) scanned
  | none =>
    have value := congrArg Char.toNat same
    rw [toNat_ofNat_ascii ascii] at value
    have beyond : replacement.toNat = 0xFFFD := rfl
    simp only [Option.getD_none, beyond] at value
    omega

end Utf8

section

variable {α : Type} [DecidableEq α] {stop : α} {line rest : List α}

/-- What is written before each stop, and what is written after the last, unless nothing is. -/
def lines (stop : α) (written : List α) : List (List α) :=
  let parts := written.splitOn stop
  if parts.getLast? = some [] then parts.dropLast else parts

theorem lines_of_unbroken (unbroken : stop ∉ line) :
    lines stop line = if line = [] then [] else [line] := by
  simp [lines, List.splitOn_eq_singleton unbroken]

theorem lines_append_stop (unbroken : stop ∉ line) (rest : List α) :
    lines stop (line ++ stop :: rest) = line :: lines stop rest := by
  have some_part : rest.splitOn stop ≠ [] := List.splitOn_ne_nil stop rest
  simp only [lines, List.splitOn_append_cons_self_of_not_mem unbroken,
    List.getLast?_cons_of_ne_nil some_part, List.dropLast_cons_of_ne_nil some_part]
  split <;> rfl

@[elab_as_elim]
theorem lines_induction {motive : List α → Prop} (stop : α)
    (tail : ∀ line, stop ∉ line → motive line)
    (step : ∀ line rest, stop ∉ line → motive rest → motive (line ++ stop :: rest))
    (written : List α) : motive written := by
  induction size : written.length using Nat.strongRecOn generalizing written with
  | _ n ih =>
    by_cases broken : stop ∈ written
    · obtain ⟨line, rest, rfl, unbroken⟩ := List.eq_append_cons_of_mem broken
      apply step line rest unbroken
      apply ih rest.length _ rest rfl
      rw [← size, List.length_append, List.length_cons]
      omega
    · exact tail written broken

theorem length_lines (stop : α) (written : List α) : (lines stop written).length =
    written.count stop + if written = [] ∨ written.getLast? = some stop then 0 else 1 := by
  induction written using lines_induction stop with
  | tail line unbroken =>
    have last : line.getLast? ≠ some stop := fun last => unbroken (List.mem_of_getLast? last)
    rw [lines_of_unbroken unbroken, List.count_eq_zero_of_not_mem unbroken]
    by_cases nothing : line = [] <;> simp [nothing, last]
  | step line rest unbroken ih =>
    rw [lines_append_stop unbroken, List.length_cons, ih, List.count_append,
      List.count_eq_zero_of_not_mem unbroken, List.count_cons_self]
    cases rest with
    | nil => simp
    | cons x rest =>
      have last : (line ++ stop :: x :: rest).getLast? = (x :: rest).getLast? := by
        rw [List.getLast?_append, List.getLast?_cons_cons, List.getLast?_cons, Option.some_or]
      simp only [last, List.append_eq_nil_iff, reduceCtorEq, and_false, false_or]
      omega

end

/-- Bytes may be read and then cut at an ASCII character, or cut and then read. -/
theorem lines_characters {a : UInt8} (ascii : a.toNat < 0x80) (named : a ≠ 0) (bytes : List UInt8) :
    lines (Char.ofNat a.toNat) (Utf8.characters bytes) = (lines a bytes).map Utf8.characters := by
  have unread {line : List UInt8} : a ∉ line → Char.ofNat a.toNat ∉ Utf8.characters line :=
    mt (Utf8.mem_of_mem_characters ascii named)
  induction bytes using lines_induction a with
  | tail line unbroken =>
    rw [lines_of_unbroken unbroken, lines_of_unbroken (unread unbroken)]
    by_cases nothing : line = [] <;> simp [nothing, Utf8.characters_eq_nil_iff]
  | step line rest unbroken ih =>
    rw [Utf8.characters_append_ascii ascii, lines_append_stop (unread unbroken), ih,
      lines_append_stop unbroken, List.map_cons]

end MissionWorker.Text
