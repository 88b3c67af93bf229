import MissionWorker.Json.Basic

namespace MissionWorker.Json.Members

section Tables

variable {α β : Type} {name other : String} {a : α} {members more : List (String × α)}

@[simp] theorem find?_nil : find? name ([] : List (String × α)) = none := rfl

@[simp] theorem find?_cons : find? name ((other, a) :: members) =
    if other = name then some a else find? name members := rfl

@[simp] theorem find?_append :
    find? name (members ++ more) = (find? name members).or (find? name more) := by
  induction members with
  | nil => rfl
  | cons m rest ih =>
    obtain ⟨n, v⟩ := m
    by_cases same : n = name
    · simp [same]
    · simpa [same] using ih

theorem find?_map {f : α → β} :
    find? name (members.map fun (n, a) => (n, f a)) = (find? name members).map f := by
  induction members with
  | nil => rfl
  | cons m rest ih =>
    obtain ⟨n, a⟩ := m
    by_cases same : n = name
    · simp [same]
    · simpa [same] using ih

end Tables

variable {name other : String} {v : Json} {members : Members}

theorem find?_insert_self : find? name (insert name v members) = some v := by
  induction members with
  | nil => simp [insert]
  | cons m rest ih =>
    obtain ⟨n, w⟩ := m
    by_cases before : name < n
    · simp [insert, before]
    · by_cases same : n = name
      · simp [insert, same]
      · simp [insert, before, same, ih]

theorem find?_insert_of_ne (ne : other ≠ name) :
    find? other (insert name v members) = find? other members := by
  induction members with
  | nil => simp [insert, ne.symm]
  | cons m rest ih =>
    obtain ⟨n, w⟩ := m
    by_cases before : name < n
    · simp [insert, before, ne.symm]
    · by_cases same : n = name
      · simp [insert, same, ne.symm]
      · simp [insert, before, same, ih]

def erase (name : String) : Members → Members
  | [] => []
  | (n, v) :: rest => if n = name then erase name rest else (n, v) :: erase name rest

theorem find?_erase_self : find? name (erase name members) = none := by
  induction members with
  | nil => rfl
  | cons m rest ih =>
    obtain ⟨n, w⟩ := m
    by_cases same : n = name
    · simp [erase, same, ih]
    · simp [erase, same, ih]

theorem find?_erase_of_ne (ne : other ≠ name) :
    find? other (erase name members) = find? other members := by
  induction members with
  | nil => rfl
  | cons m rest ih =>
    obtain ⟨n, w⟩ := m
    by_cases same : n = name
    · simp [erase, same, ne.symm, ih]
    · simp [erase, same, ih]

end MissionWorker.Json.Members
