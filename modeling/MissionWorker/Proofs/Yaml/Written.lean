import Mathlib.Data.List.Nodup
import MissionWorker.Proofs.Document.Remains
import MissionWorker.Proofs.Net.Address
import MissionWorker.Yaml.Source

namespace MissionWorker.Yaml

open MissionWorker.Document

theorem toDigits_zero {n : Nat} {rest : List Char} (zero : Nat.toDigits 10 n = '0' :: rest) :
    rest = [] := by
  induction n using Nat.strongRecOn generalizing rest with
  | ind n ih =>
    by_cases small : n < 10
    · rw [Nat.toDigits_of_lt_base small] at zero
      exact (List.cons.inj zero).2.symm
    · rw [Nat.toDigits_of_base_le (by omega) (by omega)] at zero
      cases front : Nat.toDigits 10 (n / 10) with
      | nil => exact absurd front Nat.toDigits_ne_nil
      | cons c more =>
        rw [front, List.cons_append] at zero
        cases (List.cons.inj zero).1
        -- What comes before the last digit would be nothing but a zero.
        cases ih (n / 10) (by omega) front
        have value := Nat.ofDigitChars_ten_toDigits (n := n / 10)
        rw [front] at value
        have none : n / 10 = 0 := value.symm
        omega

namespace View

theorem digit?_of_isDigit {c : Char} (digit : c.isDigit) : digit? 10 c = some (c.toNat - '0'.toNat) := by
  have bounds := Net.Address.isDigit_iff.mp digit
  have most : c.toNat ≤ 57 := bounds.2
  have zero : '0'.toNat = 48 := rfl
  have small : c.toNat - '0'.toNat < 10 := by omega
  simp only [digit?, Scalar.hexDigit?, bounds, and_self, if_true, Option.filter_some, small, decide_true]

theorem mapM_digit? {cs : List Char} (digits : ∀ c ∈ cs, c.isDigit) :
    cs.mapM (digit? 10) = some (cs.map fun c => c.toNat - '0'.toNat) := by
  induction cs with
  | nil => rfl
  | cons c rest ih =>
    obtain ⟨first, later⟩ := List.forall_mem_cons.mp digits
    rw [List.mapM_cons, digit?_of_isDigit first, ih later]
    rfl

theorem number?_toDigits (n : Nat) : number? 10 (Nat.toDigits 10 n) = some n := by
  have digits : ∀ c ∈ Nat.toDigits 10 n, c.isDigit :=
    fun c member => Nat.isDigit_of_mem_toDigits (by omega) (by omega) member
  have value : (Nat.toDigits 10 n).foldl (fun m c => m * 10 + (c.toNat - '0'.toNat)) 0 = n := by
    have whole := Nat.ofDigitChars_ten_toDigits (n := n)
    rw [Nat.ofDigitChars_eq_foldl] at whole
    simpa only [Nat.mul_comm 10] using whole
  have filled : (Nat.toDigits 10 n).map (fun c => c.toNat - '0'.toNat) ≠ [] :=
    mt List.map_eq_nil_iff.mp Nat.toDigits_ne_nil
  simp only [number?, mapM_digit? digits, Option.bind_eq_bind, Option.bind_some, filled, if_false,
    List.foldl_map, value]

theorem integer?_toString (n : Nat) : integer? (toString n) = some (n : Int) := by
  have text : (toString n).toList = Nat.toDigits 10 n := by simp
  have digits : ∀ c ∈ Nat.toDigits 10 n, c.isDigit :=
    fun c member => Nat.isDigit_of_mem_toDigits (by omega) (by omega) member
  have other {c : Char} {rest : List Char} (written : Nat.toDigits 10 n = c :: rest)
      (none : c.isDigit = false) : False := by
    have digit := digits c (by simp [written])
    simp [none] at digit
  have magnitude : magnitude? (Nat.toDigits 10 n) = some n := by
    have later {c : Char} {rest : List Char} (written : Nat.toDigits 10 n = '0' :: c :: rest) :
        False := by
      cases toDigits_zero written
    unfold magnitude?
    split
    · exact (later ‹_›).elim
    · exact (later ‹_›).elim
    · exact (later ‹_›).elim
    · exact (later ‹_›).elim
    · exact number?_toDigits n
  unfold integer?
  rw [text]
  split
  · exact (other ‹_› rfl).elim
  · exact (other ‹_› rfl).elim
  · simp [magnitude]

end View

namespace Node

def plain (text : String) : Node := .scalar none .plain text

mutual

def ofJson : Json → Node
  | .null => plain "null"
  | .bool b => plain (if b then "true" else "false")
  | .number (.int n) => plain (toString n)
  | .number (.float x) => plain (Decimal.Layout.document.render x)
  | .text s => .scalar none .doubleQuoted s
  | .array items => .sequence (ofItems items)
  | .object members => .mapping (ofMembers members)

def ofItems : List Json → List Node
  | [] => []
  | v :: rest => ofJson v :: ofItems rest

def ofMembers : List (String × Json) → List (Node × Node)
  | [] => []
  | (n, v) :: rest => (plain n, ofJson v) :: ofMembers rest

end

end Node

/-- A JSON value as the only node of a document. -/
def written (v : Json) : View := { named := [], node := Node.ofJson v }

theorem named?_ofMembers {node : Node} (members : Json.Members) :
    View.named? { named := [], node } (Node.ofMembers members) =
      .ok (members.map fun (n, v) => (n, written v)) := by
  induction members with
  | nil => rfl
  | cons m rest ih =>
    obtain ⟨n, v⟩ := m
    rw [Node.ofMembers, View.named?, ih]
    rfl

theorem repeated?_of_nodup {declared : List String} {members : List (String × View)}
    (distinct : (members.map Prod.fst).Nodup) : View.repeated? declared members = none := by
  apply List.find?_eq_none.mpr
  intro name _
  have once : (members.map Prod.fst).count name ≤ 1 := List.nodup_iff_count_le_one.mp distinct name
  rw [List.count, List.countP_map, List.countP_eq_length_filter] at once
  have few : (members.filter (·.1 == name)).length ≤ 1 := once
  simpa using few

theorem keeps_written : Keeps written where
  text _ := rfl
  path _ := rfl
  flag b := by cases b <;> rfl
  natural := by
    intro kind limit n small
    have number : ((written (.nat n)).bare? "int").bind View.integer? = some (n : Int) :=
      View.integer?_toString n
    have within : 0 ≤ (n : Int) ∧ (n : Int) < limit := by omega
    show View.readNatural kind limit (written (.nat n)) = .ok n
    simp only [View.readNatural, number, within, and_self, if_true, Int.toNat_natCast]
  choice := by
    intro words s known
    show View.readChoice words (written (.text s)) = .ok s
    exact if_pos known
  someText _ := rfl
  someFlag b := by cases b <;> rfl
  fields := by
    intro record declared members distinct
    have once : ((members.map fun (n, v) => (n, written v)).map Prod.fst).Nodup := by
      rw [List.map_map]
      exact distinct
    have unrepeated : View.repeated? declared (members.map fun (n, v) => (n, written v)) = none :=
      repeated?_of_nodup once
    have opened : (written (.object members)).resolved = .mapping (Node.ofMembers members) := rfl
    have entries : (written (.object members)).named? (Node.ofMembers members) =
        .ok (members.map fun (n, v) => (n, written v)) := named?_ofMembers members
    show View.readFields record declared (written (.object members)) = _
    simp only [View.readFields, opened, entries, Bind.bind, Except.bind, unrepeated]

end MissionWorker.Yaml
