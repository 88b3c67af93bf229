import MissionWorker.Proofs.Document.Record
import MissionWorker.Proofs.Json.Members

namespace MissionWorker.Json

mutual

/-- The value without the members at these places, each told by the names on the way to it. -/
def prune (gone : List String → Bool) : Json → Json
  | object members => object (pruneMembers gone members)
  | v => v

def pruneMembers (gone : List String → Bool) : List (String × Json) → List (String × Json)
  | [] => []
  | (n, v) :: rest =>
    if gone [n] then pruneMembers gone rest
    else (n, v.prune fun path => gone (n :: path)) :: pruneMembers gone rest

end

variable {gone : List String → Bool} {name : String} {members : Members}

theorem find?_pruneMembers : Members.find? name (pruneMembers gone members) =
    if gone [name] then none
    else (Members.find? name members).map (prune fun path => gone (name :: path)) := by
  induction members with
  | nil => simp [pruneMembers]
  | cons m rest ih =>
    obtain ⟨n, v⟩ := m
    by_cases same : n = name
    · subst same
      by_cases taken : gone [n] = true
      · simp [pruneMembers, taken, ih]
      · simp [pruneMembers, taken]
    · by_cases taken : gone [n] = true
      · simp [pruneMembers, taken, ih, same]
      · simp [pruneMembers, taken, ih, same]

mutual

theorem prune_none : ∀ v : Json, v.prune (fun _ => false) = v
  | .object members => congrArg object (pruneMembers_none members)
  | .null | .bool _ | .number _ | .text _ | .array _ => rfl

theorem pruneMembers_none : ∀ members, pruneMembers (fun _ => false) members = members
  | [] => rfl
  | (n, v) :: rest => by simp [pruneMembers, prune_none v, pruneMembers_none rest]

end

theorem names_pruneMembers :
    ((pruneMembers gone members).map Prod.fst).Sublist (members.map Prod.fst) := by
  induction members with
  | nil => exact .slnil
  | cons m rest ih =>
    obtain ⟨n, v⟩ := m
    by_cases taken : gone [n] = true
    · simpa [pruneMembers, taken] using ih.cons n
    · simpa [pruneMembers, taken] using ih

end MissionWorker.Json

namespace MissionWorker.Document

open Json (Members)

variable {σ α : Type} {write : Json → σ}

/-- A way to write JSON values in a format that says the same. -/
structure Keeps [Source σ] (write : Json → σ) : Prop where
  text : ∀ s, Source.text (write (.text s)) = .ok s
  path : ∀ s, Source.path (write (.text s)) = .ok s
  flag : ∀ b, Source.flag (write (.bool b)) = .ok b
  natural : ∀ {kind : String} {limit n : Nat}, n < limit →
    Source.natural kind limit (write (.nat n)) = .ok n
  choice : ∀ {words : List String} {s : String}, s ∈ words →
    Source.choice words (write (.text s)) = .ok s
  someText : ∀ s, Source.present (write (.text s)) = .ok (some (write (.text s)))
  someFlag : ∀ b, Source.present (write (.bool b)) = .ok (some (write (.bool b)))
  fields : ∀ {record : String} {declared : List String} {members : Members},
    (members.map Prod.fst).Nodup → Source.fields record declared (write (.object members)) =
      .ok (.named (members.map fun (n, v) => (n, write v)))

def remains (write : Json → σ) (gone : List String → Bool) (members : Members) (name : String) : Option σ :=
  (Members.find? name (Json.pruneMembers gone members)).map write

namespace Keeps

variable [Source σ] {gone : List String → Bool} {name : String} {members : Members}

theorem word (keeps : Keeps write) {kind : String} {limit : Nat} {ofNat : Nat → α} {toNat : α → Nat}
    (small : ∀ a, toNat a < limit) (wide : ∀ a, ofNat (toNat a) = a) (a : α) :
    (Source.natural kind limit (write (.nat (toNat a)))).map ofNat = .ok a := by
  rw [keeps.natural (small a)]
  exact congrArg Except.ok (wide a)

theorem word16 (keeps : Keeps write) (n : UInt16) : Document.word16 (write (.nat n.toNat)) = .ok n :=
  keeps.word UInt16.toNat_lt (fun _ => UInt16.ofNat_toNat) n

theorem word32 (keeps : Keeps write) (n : UInt32) : Document.word32 (write (.nat n.toNat)) = .ok n :=
  keeps.word UInt32.toNat_lt (fun _ => UInt32.ofNat_toNat) n

theorem word64 (keeps : Keeps write) (n : UInt64) : Document.word64 (write (.nat n.toNat)) = .ok n :=
  keeps.word UInt64.toNat_lt (fun _ => UInt64.ofNat_toNat) n

theorem optionalPath (keeps : Keeps write) (s : String) :
    optionally Source.path (write (.text s)) = .ok (some s) := by
  simp [optionally, keeps.someText, keeps.path, Bind.bind, Except.bind, Except.map]

theorem optionalFlag (keeps : Keeps write) (b : Bool) :
    optionally Source.flag (write (.bool b)) = .ok (some b) := by
  simp [optionally, keeps.someFlag, keeps.flag, Bind.bind, Except.bind, Except.map]

theorem record (keeps : Keeps write) {label : String} {r : Record σ α} {a : α}
    (distinct : (members.map Prod.fst).Nodup) (known : Record.Reads (remains write gone members) r a) :
    r.read label (write ((Json.object members).prune gone)) = .ok a := by
  have left : ((Json.pruneMembers gone members).map Prod.fst).Nodup :=
    distinct.sublist Json.names_pruneMembers
  have found : r.named (fun name => Members.find? name
      ((Json.pruneMembers gone members).map fun (n, v) => (n, write v))) = .ok a := by
    simp only [Members.find?_map]
    exact known
  rw [Json.prune, Record.read, keeps.fields left]
  simp only [Bind.bind, Except.bind, found]

end Keeps

namespace Record.Reads

variable {gone : List String → Bool} {name : String} {members : Members} {v : Json}
  {read : σ → Except Fault α} {a default : α}

theorem remaining (found : Members.find? name members = some v)
    (known : read (write (v.prune fun path => gone (name :: path))) = .ok a) :
    Reads (remains write gone members) (.defaulted name default read)
      (if gone [name] then default else a) := by
  by_cases taken : gone [name] = true
  · rw [if_pos taken]
    apply absent
    simp [remains, Json.find?_pruneMembers, taken]
  · rw [if_neg taken]
    apply defaulted ?_ known
    simp [remains, Json.find?_pruneMembers, taken, found]

theorem optional (encode : α → Json) {read : σ → Except Fault (Option α)} {o : Option α}
    (found : Members.find? name members = o.map encode)
    (known : ∀ a ∈ o, read (write ((encode a).prune fun path => gone (name :: path))) = .ok (some a)) :
    Reads (remains write gone members) (.defaulted name none read)
      (if gone [name] then none else o) := by
  cases o with
  | none =>
    rw [ite_self]
    apply absent
    simp [remains, Json.find?_pruneMembers, found]
  | some a => exact remaining found (known a rfl)

end Record.Reads
end MissionWorker.Document
