import MissionWorker.Document.Record

namespace MissionWorker.Document

variable {σ α β : Type} {find : String → Option σ} {name : String} {a : α} {b : β}

namespace Record

theorem named_seq {f : Record σ (α → β)} {r : Record σ α} :
    (f <*> r).named find = .ok b ↔ ∃ g a, f.named find = .ok g ∧ r.named find = .ok a ∧ b = g a := by
  show (f.apply r).named find = .ok b ↔ _
  cases made : f.named find with
  | error p => cases known : r.named find <;> simp [apply, made, known]
  | ok g =>
    cases known : r.named find with
    | error q => simp [apply, made, known]
    | ok a => simp [apply, made, known, eq_comm]

theorem named_map {g : α → β} {r : Record σ α} :
    (g <$> r).named find = .ok b ↔ ∃ a, r.named find = .ok a ∧ b = g a := by
  have same : (g <$> r : Record σ β) = always g <*> r := rfl
  rw [same, named_seq]
  simp [always]

theorem named_field {absent short : Option α} {read : σ → Except Fault α} :
    (field name absent short read).named find = .ok a ↔
      (∃ x, find name = some x ∧ read x = .ok a) ∨ find name = none ∧ absent = some a := by
  cases found : find name with
  | none => cases absent <;> simp [field, found]
  | some x =>
    cases known : read x with
    | error fault => simp [field, found, known]
    | ok v => simp [field, found, known]

theorem named_required {read : σ → Except Fault α} :
    (required name read).named find = .ok a ↔ ∃ x, find name = some x ∧ read x = .ok a := by
  simp [required, named_field]

theorem named_defaulted {default : α} {read : σ → Except Fault α} :
    (defaulted name default read).named find = .ok a ↔
      (∃ x, find name = some x ∧ read x = .ok a) ∨ find name = none ∧ default = a := by
  simp [defaulted, named_field]

/-- What comes of a record's named fields. -/
def Reads (find : String → Option σ) (r : Record σ α) (a : α) : Prop := r.named find = .ok a

namespace Reads

theorem map {g : α → β} {r : Record σ α} (known : Reads find r a) : Reads find (g <$> r) (g a) :=
  named_map.mpr ⟨a, known, rfl⟩

theorem seq {f : Record σ (α → β)} {r : Record σ α} {g : α → β} (made : Reads find f g)
    (known : Reads find r a) : Reads find (f <*> r) (g a) :=
  named_seq.mpr ⟨g, a, made, known, rfl⟩

variable {x : σ} {read : σ → Except Fault α} {default : α}

theorem required (found : find name = some x) (known : read x = .ok a) :
    Reads find (.required name read) a :=
  named_required.mpr ⟨x, found, known⟩

theorem defaulted (found : find name = some x) (known : read x = .ok a) :
    Reads find (.defaulted name default read) a :=
  named_defaulted.mpr (.inl ⟨x, found, known⟩)

theorem absent (missing : find name = none) : Reads find (.defaulted name default read) default :=
  named_defaulted.mpr (.inr ⟨missing, rfl⟩)

theorem nullable [Source σ] {o : Option α} (found : find name = some x)
    (known : optionally read x = .ok o) : Reads find (.nullable name read) o :=
  named_field.mpr (.inl ⟨x, found, known⟩)

theorem without [Source σ] (missing : find name = none) : Reads find (.nullable name read) none :=
  named_field.mpr (.inr ⟨missing, rfl⟩)

end Reads

theorem read_object {record : String} {r : Record Json α} {members : Json.Members} :
    r.read record (.object members) = .ok a ↔
      r.named (Json.Members.find? · members) = .ok a := by
  have given : (Source.fields record r.names (.object members) : Except Fault (Fields Json)) =
      .ok (.named members) := rfl
  rw [read, given]
  cases known : r.named (Json.Members.find? · members) <;> simp [Bind.bind, Except.bind, known]

theorem Reads.object {record : String} {r : Record Json α} {members : Json.Members}
    (known : Reads (Json.Members.find? · members) r a) : r.read record (.object members) = .ok a :=
  read_object.mpr known

end Record

theorem text_json {v : Json} {s : String} : Source.text v = .ok s ↔ v = .text s := by
  have opened : (Source.text v : Except Fault String) = Json.readText "a string" v := rfl
  rw [opened]
  cases v <;> simp [Json.readText]

theorem natural_json {v : Json} {kind : String} {limit n : Nat} :
    Source.natural kind limit v = .ok n ↔ v = .nat n ∧ n < limit := by
  have opened : (Source.natural kind limit v : Except Fault Nat) = Json.readNatural kind limit v := rfl
  rw [opened]
  cases v with
  | number x =>
    cases x with
    | float x => simp [Json.readNatural, Json.nat]
    | int i =>
      by_cases within : 0 ≤ i ∧ i < limit
      · simp only [Json.readNatural, within, and_self, if_true, Except.ok.injEq, Json.nat,
          Json.number.injEq, Json.Number.int.injEq]
        omega
      · simp only [Json.readNatural, within, if_false, Json.nat, Json.number.injEq,
          Json.Number.int.injEq, reduceCtorEq, false_iff]
        omega
  | null | bool | text | array | object => simp [Json.readNatural, Json.nat]

section Words

variable {kind : String} {limit : Nat} {ofNat : Nat → α} {toNat : α → Nat} {v : Json}

theorem word_json (small : ∀ a, toNat a < limit) (narrow : ∀ {n}, n < limit → toNat (ofNat n) = n)
    (wide : ∀ a, ofNat (toNat a) = a) :
    (Source.natural kind limit v).map ofNat = .ok a ↔ v = .nat (toNat a) := by
  constructor
  · intro known
    cases found : (Source.natural kind limit v : Except Fault Nat) with
    | error fault => simp [found, Except.map] at known
    | ok m =>
      obtain ⟨same, below⟩ := natural_json.mp found
      have value : ofNat m = a := by simpa [found, Except.map] using known
      rw [same, ← value, narrow below]
  · intro same
    have found : (Source.natural kind limit v : Except Fault Nat) = .ok (toNat a) :=
      natural_json.mpr ⟨same, small a⟩
    simp [found, Except.map, wide]

end Words

theorem word32_json {v : Json} {n : UInt32} : word32 v = .ok n ↔ v = .nat n.toNat :=
  word_json UInt32.toNat_lt UInt32.toNat_ofNat_of_lt' fun _ => UInt32.ofNat_toNat

theorem word64_json {v : Json} {n : UInt64} : word64 v = .ok n ↔ v = .nat n.toNat :=
  word_json UInt64.toNat_lt UInt64.toNat_ofNat_of_lt' fun _ => UInt64.ofNat_toNat

theorem real_of_finite {x : Float} (finite : x.isFinite = true) :
    Json.real x = .number (.float x) := if_pos finite

theorem real_json {x : Float} (finite : x.isFinite = true) : Json.readReal (.real x) = .ok x := by
  rw [real_of_finite finite]
  rfl

theorem optionally_json {read : Json → Except Fault α} {v : Json} {o : Option α} :
    optionally read v = .ok o ↔
      v = .null ∧ o = none ∨ v ≠ .null ∧ ∃ a, read v = .ok a ∧ o = some a := by
  by_cases null : v = .null
  · subst null
    have opened : optionally read (.null : Json) = .ok none := rfl
    simp [opened, eq_comm]
  · have opened : optionally read v = (read v).map some := by
      cases v with
      | null => exact absurd rfl null
      | bool | number | text | array | object => rfl
    rw [opened]
    cases known : read v <;> simp [Except.map, null, eq_comm]

theorem orNull_json {read : Json → Except Fault α} {encode : α → Json} {o : Option α}
    (known : ∀ a ∈ o, read (encode a) = .ok a) (solid : ∀ a ∈ o, encode a ≠ .null) :
    optionally read (.orNull encode o) = .ok o := by
  cases o with
  | none => exact optionally_json.mpr (.inl ⟨rfl, rfl⟩)
  | some a => exact optionally_json.mpr (.inr ⟨solid a rfl, a, known a rfl, rfl⟩)

theorem mapM_map {ε σ : Type} {read : σ → Except ε α} {encode : α → σ} {values : List α}
    (each : ∀ a ∈ values, read (encode a) = .ok a) : (values.map encode).mapM read = .ok values := by
  induction values with
  | nil => rfl
  | cons a rest ih =>
    have first : read (encode a) = .ok a := each a List.mem_cons_self
    have later := ih fun b member => each b (List.mem_cons_of_mem _ member)
    rw [List.map_cons, List.mapM_cons, first, later]
    rfl

theorem mapM_middle {ε σ : Type} {read : σ → Except ε α} {before after : List σ} {x : σ}
    {values : List α} : (before ++ x :: after).mapM read = .ok values ↔
      ∃ as a bs, before.mapM read = .ok as ∧ read x = .ok a ∧ after.mapM read = .ok bs ∧
        values = as ++ a :: bs := by
  rw [List.mapM_append, List.mapM_cons]
  cases before.mapM read with
  | error fault => simp [Bind.bind, Except.bind]
  | ok as =>
    cases read x with
    | error fault => simp [Bind.bind, Except.bind]
    | ok a =>
      cases after.mapM read with
      | error fault => simp [Bind.bind, Except.bind]
      | ok bs => simp [Bind.bind, Except.bind, Pure.pure, Except.pure, eq_comm]

theorem readList_json {read : Json → Except Fault α} {encode : α → Json} {values : List α}
    (each : ∀ a ∈ values, read (encode a) = .ok a) :
    Json.readList read (.array (values.map encode)) = .ok values :=
  mapM_map each

theorem readTable_json {read : Json → Except Fault α} {encode : α → Json}
    {values : List (String × α)} (each : ∀ p ∈ values, read (encode p.2) = .ok p.2) :
    Json.readTable read (.object (values.map fun (n, a) => (n, encode a))) = .ok values := by
  apply mapM_map
  rintro ⟨n, a⟩ member
  have known : read (encode a) = .ok a := each (n, a) member
  simp [known, Except.map]

end MissionWorker.Document
