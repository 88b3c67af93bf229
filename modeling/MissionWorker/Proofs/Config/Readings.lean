import Mathlib.Data.List.TakeWhile
import MissionWorker.Config.Overlay

namespace MissionWorker

namespace Text

theorem strip_eq_nil {α : Type} {p : α → Bool} {cs : List α} : strip p cs = [] ↔ ∀ c ∈ cs, p c := by
  have back : strip p cs = [] ↔ ∀ c ∈ cs.dropWhile p, p c := by
    rw [strip, stripEnd, List.reverse_eq_nil_iff, List.dropWhile_eq_nil_iff]
    simp only [List.mem_reverse]
  rw [back]
  constructor
  · intro rest
    cases left : cs.dropWhile p with
    | nil => exact List.dropWhile_eq_nil_iff.mp left
    | cons c later =>
      have fails := List.head_dropWhile_not p (l := cs) (by simp [left])
      have holds := rest c (by simp [left])
      simp [left, holds] at fails
  · intro every
    have none : cs.dropWhile p = [] := List.dropWhile_eq_nil_iff.mpr every
    simp [none]

theorem isBlankText_iff {s : String} : isBlankText s ↔ trimmed s = "" := by
  rw [isBlankText, List.all_eq_true, trimmed, String.ofList_eq_empty_iff, strip_eq_nil]

end Text

namespace Config

/-- A text writes a number in decimal digits, perhaps with a plus sign before them. -/
def Numeral (s : String) (n : Nat) : Prop :=
  ∃ digits, (s.toList = digits ∨ s.toList = '+' :: digits) ∧ digits ≠ [] ∧
    (∀ d ∈ digits, d.isDigit) ∧ Nat.ofDigitChars 10 digits 0 = n

variable {limit value m n : Nat} {cs : List Char} {s : String}

theorem digitsBelow_ok (small : value < limit) : digitsBelow limit value cs = .ok n ↔
    (∀ c ∈ cs, c.isDigit) ∧ Nat.ofDigitChars 10 cs value = n ∧ n < limit := by
  induction cs generalizing value with
  | nil =>
    simp only [digitsBelow, Except.ok.injEq, List.not_mem_nil, false_implies, implies_true, true_and,
      Nat.ofDigitChars_nil]
    omega
  | cons c rest ih =>
    rw [digitsBelow, Nat.ofDigitChars_cons, Nat.mul_comm 10 value]
    by_cases digit : c.isDigit
    · simp only [digit, if_true, List.forall_mem_cons, true_and]
      split
      · rename_i next
        exact ih next
      · rename_i exceeds
        -- A number only grows by the digits that follow.
        have grown : Nat.ofDigitChars 10 rest (value * 10 + (c.toNat - '0'.toNat)) =
            10 ^ rest.length * (value * 10 + (c.toNat - '0'.toNat)) + Nat.ofDigitChars 10 rest 0 :=
          Nat.ofDigitChars_eq_ofDigitChars_zero
        have factor : 1 ≤ 10 ^ rest.length := Nat.one_le_pow _ _ (by omega)
        have least : value * 10 + (c.toNat - '0'.toNat) ≤
            10 ^ rest.length * (value * 10 + (c.toNat - '0'.toNat)) := Nat.le_mul_of_pos_left _ factor
        simp only [reduceCtorEq, false_iff, not_and]
        intro _ written
        omega
    · simp [digit]

theorem numberBelow_ok (positive : 0 < limit) :
    numberBelow limit s = .ok n ↔ Numeral s n ∧ n < limit := by
  have sign {digits : List Char} (first : '+' ∈ digits) : ¬∀ d ∈ digits, d.isDigit := by
    intro every
    simpa using every '+' first
  unfold numberBelow Numeral
  split
  · rename_i empty
    simp [empty]
  · rename_i alone
    simp [alone]
  · rename_i digits more signed
    rw [digitsBelow_ok positive, signed]
    constructor
    · rintro ⟨every, written, below⟩
      exact ⟨⟨digits, .inr rfl, more, every, written⟩, below⟩
    · rintro ⟨⟨ds, found | found, -, every, written⟩, below⟩
      · exact absurd every (sign (by simp [← found]))
      · cases found
        exact ⟨every, written, below⟩
  · rename_i filled _ unsigned
    rw [digitsBelow_ok positive]
    constructor
    · rintro ⟨every, written, below⟩
      exact ⟨⟨_, .inl rfl, filled, every, written⟩, below⟩
    · rintro ⟨⟨ds, found | found, -, every, written⟩, below⟩
      · rw [found]
        exact ⟨every, written, below⟩
      · exact absurd found (unsigned _)

theorem Numeral.unique (one : Numeral s m) (other : Numeral s n) : m = n := by
  have first : numberBelow (m + n + 1) s = .ok m := (numberBelow_ok (by omega)).mpr ⟨one, by omega⟩
  have second : numberBelow (m + n + 1) s = .ok n := (numberBelow_ok (by omega)).mpr ⟨other, by omega⟩
  exact Except.ok.inj (first.symm.trans second)

def flagWords : List (String × Bool) := [
  ("1", true), ("true", true), ("yes", true), ("on", true),
  ("0", false), ("false", false), ("no", false), ("off", false)]

def levelWords : List (String × Level) := [
  ("error", .error), ("warn", .warn), ("warning", .warn), ("info", .info), ("debug", .debug),
  ("trace", .trace)]

def formatWords : List (String × Format) := [
  ("json", .json), ("text", .text), ("compact", .compact), ("pretty", .pretty)]

theorem truth?_eq_some {b : Bool} :
    truth? s = some b ↔ (Text.lowered (Text.trimmed s), b) ∈ flagWords := by
  unfold truth? flagWords
  generalize Text.lowered (Text.trimmed s) = word
  by_cases affirmed : word ∈ ["1", "true", "yes", "on"]
  · simp only [affirmed, if_true]
    simp only [List.mem_cons, List.not_mem_nil, or_false] at affirmed
    rcases affirmed with rfl | rfl | rfl | rfl <;> cases b <;> simp
  · simp only [affirmed, if_false]
    by_cases denied : word ∈ ["0", "false", "no", "off"]
    · simp only [denied, if_true]
      simp only [List.mem_cons, List.not_mem_nil, or_false] at denied
      rcases denied with rfl | rfl | rfl | rfl <;> cases b <;> simp
    · simp only [denied, if_false]
      simp only [List.mem_cons, List.not_mem_nil, or_false, not_or] at affirmed denied
      simp [affirmed, denied]

theorem eq_of_find? {α : Type} {name : α → String} {a : α} {all : List α}
    (found : all.find? (name · == s) = some a) : s = name a := by
  have same := List.find?_some found
  exact (beq_iff_eq.mp same).symm

theorem Level.ofName?_eq_some {l : Level} : Level.ofName? s = some l ↔ s = l.name := by
  constructor
  · exact eq_of_find?
  · rintro rfl
    cases l <;> rfl

theorem Format.ofName?_eq_some {f : Format} : Format.ofName? s = some f ↔ s = f.name := by
  constructor
  · exact eq_of_find?
  · rintro rfl
    cases f <;> rfl

theorem Level.parse?_eq_some {l : Level} : Level.parse? s = some l ↔ (Text.lowered s, l) ∈ levelWords := by
  unfold Level.parse? levelWords
  generalize Text.lowered s = word
  split
  · cases l <;> simp
  · rename_i other
    have same : word ≠ "warning" := other
    rw [Level.ofName?_eq_some]
    cases l <;> simp [Level.name, same]

theorem Format.parse?_eq_some {f : Format} :
    Format.parse? s = some f ↔ (Text.lowered s, f) ∈ formatWords := by
  rw [Format.parse?, Format.ofName?_eq_some]
  cases f <;> simp [formatWords, Format.name]

end Config
end MissionWorker
