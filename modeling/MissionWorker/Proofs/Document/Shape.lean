import Mathlib.Data.List.Nodup
import Mathlib.Logic.Relation
import MissionWorker.Proofs.Document.Record
import MissionWorker.Proofs.Json.Members

namespace MissionWorker.Document

open Json (Members)

/-- A member that a record declares, with the value that stands in for it. -/
structure Declared (σ : Type) where
  name : String
  default : Option Json
  shape : σ

/-- Where the records are in a document. -/
inductive Shape where
  | plain
  | any
  | list (items : Shape)
  | record (fields : List (Declared Shape))

abbrev Shape.Fields := List (Declared Shape)

def needed (name : String) (shape : Shape) : Shape.Fields := [⟨name, none, shape⟩]

def spare (name : String) (default : Json) (shape : Shape) : Shape.Fields := [⟨name, some default, shape⟩]

/-- A change of a record's members that says nothing else. -/
inductive Harmless (fields : Shape.Fields) (members : Members) : Members → Prop where
  | add {name : String} (v : Json) (undeclared : ∀ f ∈ fields, f.name ≠ name) :
    Harmless fields members (members.insert name v)
  | drop {f : Declared Shape} {v : Json} (declared : f ∈ fields) (default : f.default = some v)
    (idle : Members.find? f.name members = some v) : Harmless fields members (members.erase f.name)

/-- A change of a record's members that takes what cannot be done without. -/
inductive Harmful (fields : Shape.Fields) (members : Members) : Members → Prop where
  | drop {f : Declared Shape} (declared : f ∈ fields) (needed : f.default = none) :
    Harmful fields members (members.erase f.name)
  | void {f : Declared Shape} (declared : f ∈ fields) (needed : f.default = none)
    (solid : f.shape ≠ .any) : Harmful fields members (members.insert f.name .null)

inductive Within (change : Shape.Fields → Members → Members → Prop) : Shape → Json → Json → Prop where
  | here {fields : Shape.Fields} {members changed : Members} (this : change fields members changed) :
    Within change (.record fields) (.object members) (.object changed)
  | member {fields : Shape.Fields} {members : Members} {f : Declared Shape} {v w : Json}
    (declared : f ∈ fields) (found : Members.find? f.name members = some v) (inside : Within change f.shape v w) :
    Within change (.record fields) (.object members) (.object (members.insert f.name w))
  | item {shape : Shape} {v w : Json} (before after : List Json) (inside : Within change shape v w) :
    Within change (.list shape) (.array (before ++ v :: after)) (.array (before ++ w :: after))

variable {α β : Type} {shape : Shape} {fields : Shape.Fields} {name : String} {default : Json}

/-- A reader of documents of some shape. -/
structure Follows (read : Json → Except Fault α) (shape : Shape) : Prop where
  keeps : ∀ {v w : Json} {a : α}, read v = .ok a → Within Harmless shape v w → read w = .ok a
  breaks : ∀ {v w : Json} {a b : α}, read v = .ok a → Within Harmful shape v w → read w ≠ .ok b

inductive Kept (f : Declared Shape) : Option Json → Option Json → Prop where
  | same (x : Option Json) : Kept f x x
  | changed {v w : Json} (inside : Within Harmless f.shape v w) : Kept f (some v) (some w)
  | omitted {v : Json} (default : f.default = some v) : Kept f (some v) none

inductive Lost (f : Declared Shape) : Option Json → Option Json → Prop where
  | omitted (needed : f.default = none) (x : Option Json) : Lost f x none
  | voided (needed : f.default = none) (solid : f.shape ≠ .any) (x : Option Json) : Lost f x (some .null)
  | changed {v w : Json} (inside : Within Harmful f.shape v w) : Lost f (some v) (some w)

theorem Within.kept {v w : Json} (inside : Within Harmless (.record fields) v w)
    (distinct : (fields.map Declared.name).Nodup) :
    ∃ members changed, v = .object members ∧ w = .object changed ∧
      ∀ f ∈ fields, Kept f (Members.find? f.name members) (Members.find? f.name changed) := by
  cases inside with
  | here this =>
    refine ⟨_, _, rfl, rfl, fun f declared => ?_⟩
    cases this with
    | add v undeclared =>
      rw [Members.find?_insert_of_ne (undeclared f declared)]
      exact .same _
    | @drop g v there default idle =>
      by_cases same : f.name = g.name
      · cases List.inj_on_of_nodup_map distinct declared there same
        rw [idle, Members.find?_erase_self]
        exact .omitted default
      · rw [Members.find?_erase_of_ne same]
        exact .same _
  | @member _ members g v w there found inside =>
    refine ⟨_, _, rfl, rfl, fun f declared => ?_⟩
    by_cases same : f.name = g.name
    · cases List.inj_on_of_nodup_map distinct declared there same
      rw [found, Members.find?_insert_self]
      exact .changed inside
    · rw [Members.find?_insert_of_ne same]
      exact .same _

theorem Within.lost {v w : Json} (inside : Within Harmful (.record fields) v w) :
    ∃ members changed, v = .object members ∧ w = .object changed ∧
      ∃ f ∈ fields, Lost f (Members.find? f.name members) (Members.find? f.name changed) := by
  cases inside with
  | here this =>
    refine ⟨_, _, rfl, rfl, ?_⟩
    cases this with
    | @drop f declared needed =>
      refine ⟨f, declared, ?_⟩
      rw [Members.find?_erase_self]
      exact .omitted needed _
    | @void f declared needed solid =>
      refine ⟨f, declared, ?_⟩
      rw [Members.find?_insert_self]
      exact .voided needed solid _
  | @member _ members f v w declared found inside =>
    refine ⟨_, _, rfl, rfl, f, declared, ?_⟩
    rw [found, Members.find?_insert_self]
    exact .changed inside

structure Record.Declares (r : Record Json α) (fields : Shape.Fields) : Prop where
  keeps : ∀ {find find' : String → Option Json} {a : α}, r.named find = .ok a →
    (∀ f ∈ fields, Kept f (find f.name) (find' f.name)) → r.named find' = .ok a
  breaks : ∀ {find find' : String → Option Json} {a b : α} {f : Declared Shape},
    r.named find = .ok a → f ∈ fields → Lost f (find f.name) (find' f.name) → r.named find' ≠ .ok b

namespace Record.Declares

theorem map {g : α → β} {r : Record Json α} (declares : r.Declares fields) :
    (g <$> r).Declares fields where
  keeps := by
    intro find find' b whole kept
    obtain ⟨a, known, rfl⟩ := named_map.mp whole
    exact named_map.mpr ⟨a, declares.keeps known kept, rfl⟩
  breaks := by
    intro find find' b c f whole declared lost back
    obtain ⟨a, known, _⟩ := named_map.mp whole
    obtain ⟨a', known', _⟩ := named_map.mp back
    exact declares.breaks known declared lost known'

theorem seq {f : Record Json (α → β)} {r : Record Json α} {more : Shape.Fields}
    (first : f.Declares fields) (last : r.Declares more) : (f <*> r).Declares (fields ++ more) where
  keeps := by
    intro find find' b whole kept
    obtain ⟨g, a, made, known, rfl⟩ := named_seq.mp whole
    have early := first.keeps made fun f member => kept f (List.mem_append_left _ member)
    have late := last.keeps known fun f member => kept f (List.mem_append_right _ member)
    exact named_seq.mpr ⟨g, a, early, late, rfl⟩
  breaks := by
    intro find find' b c f whole declared lost back
    obtain ⟨g, a, made, known, _⟩ := named_seq.mp whole
    obtain ⟨g', a', made', known', _⟩ := named_seq.mp back
    rcases List.mem_append.mp declared with early | late
    · exact first.breaks made early lost made'
    · exact last.breaks known late lost known'

theorem field {absent short : Option α} {default : Option Json} {read : Json → Except Fault α}
    (value : Follows read shape) (stands : default.map read = absent.map .ok)
    (solid : default = none → shape ≠ .any → ∀ a, read .null ≠ .ok a) :
    (Record.field name absent short read).Declares [⟨name, default, shape⟩] where
  keeps := by
    intro find find' a whole kept
    have slot : Kept ⟨name, default, shape⟩ (find name) (find' name) :=
      kept _ (List.mem_singleton_self _)
    generalize given : find' name = x at slot
    rcases named_field.mp whole with ⟨v, found, known⟩ | ⟨missing, stood⟩
    · rw [found] at slot
      cases slot with
      | same => exact named_field.mpr (.inl ⟨v, given, known⟩)
      | changed inside => exact named_field.mpr (.inl ⟨_, given, value.keeps known inside⟩)
      | omitted same =>
        have same : default = some v := same
        have stood : absent = some a := by simpa [same, known, eq_comm] using stands
        exact named_field.mpr (.inr ⟨given, stood⟩)
    · rw [missing] at slot
      cases slot with
      | same => exact named_field.mpr (.inr ⟨given, stood⟩)
  breaks := by
    intro find find' a b f whole declared lost back
    cases List.mem_singleton.mp declared
    have lost : Lost ⟨name, default, shape⟩ (find name) (find' name) := lost
    generalize before : find name = x at lost
    rcases named_field.mp back with ⟨w, given, back⟩ | ⟨missing, stood⟩
    · rw [given] at lost
      cases lost with
      | voided needed matters => exact solid needed matters b back
      | changed inside =>
        rcases named_field.mp whole with ⟨v, found, known⟩ | ⟨none, _⟩
        · cases before.symm.trans found
          exact value.breaks known inside back
        · cases before.symm.trans none
    · rw [missing] at lost
      cases lost with
      | omitted needed =>
        have needed : default = none := needed
        simp [needed, stood] at stands

theorem required {read : Json → Except Fault α} (value : Follows read shape)
    (solid : shape ≠ .any → ∀ a, read .null ≠ .ok a) :
    (Record.required name read).Declares (needed name shape) :=
  field value rfl fun _ => solid

theorem defaulted {a : α} {read : Json → Except Fault α} (value : Follows read shape)
    (stands : read default = .ok a) :
    (Record.defaulted name a read).Declares (spare name default shape) :=
  field value (congrArg some stands) fun needed => nomatch needed

end Record.Declares

namespace Follows

theorem plain (read : Json → Except Fault α) : Follows read .plain where
  keeps _ inside := nomatch inside
  breaks _ inside := nomatch inside

theorem any (read : Json → Except Fault α) : Follows read .any where
  keeps _ inside := nomatch inside
  breaks _ inside := nomatch inside

theorem list {read : Json → Except Fault α} (item : Follows read shape) :
    Follows (Json.readList read) (.list shape) where
  keeps := by
    rintro v w values known inside
    cases inside with
    | item before after inside =>
      obtain ⟨as, a, bs, early, here, late, rfl⟩ := mapM_middle.mp known
      exact mapM_middle.mpr ⟨as, a, bs, early, item.keeps here inside, late, rfl⟩
  breaks := by
    rintro v w values others known inside back
    cases inside with
    | item before after inside =>
      obtain ⟨_, _, _, _, here, _, _⟩ := mapM_middle.mp known
      obtain ⟨_, _, _, _, there, _, _⟩ := mapM_middle.mp back
      exact item.breaks here inside there

theorem record {r : Record Json α} {label : String} (declares : r.Declares fields)
    (distinct : (fields.map Declared.name).Nodup) : Follows (r.read label) (.record fields) where
  keeps := by
    intro v w a known inside
    obtain ⟨members, changed, rfl, rfl, kept⟩ := inside.kept distinct
    exact Record.read_object.mpr (declares.keeps (Record.read_object.mp known) kept)
  breaks := by
    intro v w a b known inside back
    obtain ⟨members, changed, rfl, rfl, f, declared, lost⟩ := inside.lost
    exact declares.breaks (Record.read_object.mp known) declared lost (Record.read_object.mp back)

theorem through {read : Json → Except Fault α} (reader : Follows read shape) {v w : Json} {a : α}
    (known : read v = .ok a) (edits : Relation.ReflTransGen (Within Harmless shape) v w) :
    read w = .ok a := by
  induction edits with
  | refl => exact known
  | tail _ last ih => exact reader.keeps ih last

end Follows

/-- A value is read from what is written of it, also after any number of harmless changes, and after
these no harmful one goes unnoticed. -/
structure RoundTrips (read : Json → Except Fault α) (shape : Shape) (written : Json) (a : α) : Prop where
  same : read written = .ok a
  keeps : ∀ v, Relation.ReflTransGen (Within Harmless shape) written v → read v = .ok a
  breaks : ∀ v w, Relation.ReflTransGen (Within Harmless shape) written v → Within Harmful shape v w →
    ∃ fault, read w = .error fault

theorem Follows.roundTrips {read : Json → Except Fault α} (reader : Follows read shape)
    {written : Json} {a : α} (same : read written = .ok a) : RoundTrips read shape written a where
  same := same
  keeps _ edits := reader.through same edits
  breaks := by
    intro v w edits harm
    have known : read v = .ok a := reader.through same edits
    cases broken : read w with
    | error fault => exact ⟨fault, rfl⟩
    | ok b => exact absurd broken (reader.breaks known harm)

end MissionWorker.Document
