import Mathlib.Data.List.DropRight
import MissionWorker.Path

namespace MissionWorker.Path

variable {p q d : Path} {separator : UInt8} {bytes : List UInt8}

theorem split_eq_splitOn : split separator bytes = bytes.splitOn separator := by
  induction bytes with
  | nil => rfl
  | cons b rest ih =>
    rw [split, List.splitOn, List.splitOnP_cons_eq_if_modifyHead, ih]
    by_cases here : b = separator
    · simp [here, List.splitOn]
    · have some_piece : rest.splitOn separator ≠ [] := List.splitOnP_ne_nil _ _
      cases pieces : rest.splitOn separator with
      | nil => exact absurd pieces some_piece
      | cons piece pieces =>
        rw [List.splitOn] at pieces
        simp [here, pieces]

theorem join_eq_intercalate (pieces : List (List UInt8)) :
    join separator pieces = [separator].intercalate pieces := by
  induction pieces with
  | nil => rfl
  | cons piece rest ih =>
    cases rest with
    | nil => simp [join, List.intercalate]
    | cons next rest => simp [join, ih, List.intercalate]

theorem split_join {pieces : List (List UInt8)} (clean : ∀ piece ∈ pieces, separator ∉ piece)
    (some_piece : pieces ≠ []) : split separator (join separator pieces) = pieces := by
  rw [split_eq_splitOn, join_eq_intercalate]
  exact List.splitOn_intercalate separator clean some_piece

theorem split_ne_nil : split separator bytes ≠ [] := by
  rw [split_eq_splitOn]
  exact List.splitOnP_ne_nil _ _

theorem exists_pieces (separator : UInt8) (bytes : List UInt8) :
    ∃ first rest, split separator bytes = first :: rest := List.exists_cons_of_ne_nil split_ne_nil

theorem split_clean : ∀ piece ∈ split separator bytes, separator ∉ piece := by
  induction bytes with
  | nil => simp [split]
  | cons b rest ih =>
    rw [split]
    split
    · simpa using ih
    · rename_i other
      split
      · simpa using Ne.symm other
      · rename_i piece pieces cut
        rw [cut] at ih
        simp only [List.mem_cons, forall_eq_or_imp] at ih ⊢
        exact ⟨by simp [Ne.symm other, ih.1], ih.2⟩

theorem split_append (before after : List UInt8) :
    split separator (before ++ separator :: after) =
      split separator before ++ split separator after := by
  simp only [split_eq_splitOn, List.splitOn]
  exact List.splitOnP_append_cons _ _ (by simp)

/-- The steps of a path that lead somewhere. -/
def names (p : Path) : List (List UInt8) := (split slash p.bytes).filter (!isIdle ·)

def origin (p : Path) : List Component :=
  if p.isAbsolute then [.root]
  else if (split slash p.bytes).head? = some [dot] then [.here] else []

theorem isAbsolute_iff {first : List UInt8} {rest : List (List UInt8)}
    (cut : split slash p.bytes = first :: rest) : p.isAbsolute ↔ first = [] ∧ rest ≠ [] := by
  rw [isAbsolute]
  cases bytes : p.bytes with
  | nil =>
    rw [bytes, split] at cut
    simp_all
  | cons b tail =>
    rw [bytes, split] at cut
    by_cases here : b = slash
    · simp only [here, if_true, List.cons.injEq] at cut
      have more : rest ≠ [] := cut.2 ▸ split_ne_nil
      simp [here, ← cut.1, more]
    · simp only [here, if_false] at cut
      split at cut
      all_goals
        simp only [List.cons.injEq] at cut
        simp [here, ← cut.1]

theorem components_eq (p : Path) : p.components = p.origin ++ p.names.map .step := by
  rw [components, origin, names]
  split
  · rename_i cut
    exact absurd cut split_ne_nil
  · rename_i first rest cut
    have absolute := isAbsolute_iff cut
    rw [cut]
    cases first with
    | nil =>
      by_cases more : rest = []
      · simp [more, absolute, isIdle]
      · simp [more, absolute, isIdle]
    | cons b tail =>
      by_cases here : b :: tail = [dot]
      · simp [here, absolute, isIdle]
      · have leads : isIdle (b :: tail) = false := by simpa [isIdle] using here
        have other : ¬(b = dot ∧ tail = []) := by simpa using here
        simp [absolute, leads, other]

theorem same_iff_names (origins : p.origin = q.origin) : p.same q ↔ p.names = q.names := by
  have injective : Function.Injective Component.step := fun _ _ same => Component.step.inj same
  rw [same, components_eq, components_eq, beq_iff_eq, origins, List.append_cancel_left_eq,
    (List.map_injective_iff.mpr injective).eq_iff]

theorem append_of_absolute (absolute : q.isAbsolute) : p.append q = q := by
  simp [append, absolute]

theorem names_of_empty (empty : p.isEmpty) : p.names = [] := by
  have nothing : p.bytes = [] := by simpa [isEmpty] using empty
  simp [names, nothing, split, isIdle]

theorem append_of_empty (empty : p.isEmpty) : p.append q = q := by
  simp [append, empty]

theorem append_of_relative (relative : q.isAbsolute = false) (nonempty : p.isEmpty = false) :
    ∃ before, (p.append q).bytes = before ++ slash :: q.bytes ∧
      (p.bytes = before ∨ p.bytes = before ++ [slash]) := by
  by_cases ends : p.bytes.getLast? = some slash
  · obtain ⟨before, cut⟩ := List.getLast?_eq_some_iff.mp ends
    exact ⟨before, by simp [append, relative, nonempty, cut], .inr cut⟩
  · exact ⟨p.bytes, by simp [append, relative, nonempty, ends], .inl rfl⟩

theorem isAbsolute_append (relative : q.isAbsolute = false) :
    (p.append q).isAbsolute = p.isAbsolute := by
  cases empty : p.isEmpty with
  | true =>
    have nothing : p.bytes = [] := by simpa [isEmpty] using empty
    rw [append_of_empty empty, relative, isAbsolute, nothing]
    rfl
  | false =>
    obtain ⟨before, whole, same⟩ := append_of_relative relative empty
    cases before with
    | nil =>
      rcases same with same | same
      · simp [isEmpty, same] at empty
      · simp [isAbsolute, whole, same]
    | cons b tail => rcases same with same | same <;> simp [isAbsolute, whole, same]

theorem names_append (p q : Path) :
    (p.append q).names = if q.isAbsolute then q.names else p.names ++ q.names := by
  split
  · rename_i absolute
    rw [append_of_absolute absolute]
  · rename_i relative
    simp only [Bool.not_eq_true] at relative
    cases empty : p.isEmpty with
    | true =>
      rw [append_of_empty empty, names_of_empty empty, List.nil_append]
    | false =>
      obtain ⟨before, whole, same | same⟩ := append_of_relative relative empty
      · simp [names, whole, same, split_append]
      · simp [names, whole, same, split_append, split, isIdle]

theorem origin_append (relative : q.isAbsolute = false) (nonempty : p.isEmpty = false) :
    (p.append q).origin = p.origin := by
  obtain ⟨before, whole, same⟩ := append_of_relative relative nonempty
  obtain ⟨first, rest, cut⟩ := exists_pieces slash before
  rw [origin, origin, isAbsolute_append relative, whole]
  rcases same with same | same <;> simp [same, split_append, cut]

theorem dropIdle_eq (steps : List (List UInt8)) : dropIdle steps = steps.rdropWhile isIdle := rfl

theorem filter_dropIdle (steps : List (List UInt8)) :
    (dropIdle steps).filter (!isIdle ·) = steps.filter (!isIdle ·) := by
  rw [dropIdle_eq]
  induction steps using List.reverseRecOn with
  | nil => simp
  | append_singleton steps step ih =>
    by_cases idle : isIdle step
    · rw [List.rdropWhile_concat_pos _ _ _ idle, ih]
      simp [idle]
    · rw [List.rdropWhile_concat_neg _ _ _ idle]

theorem filter_dropLast_dropIdle (steps : List (List UInt8)) :
    (dropIdle steps).dropLast.filter (!isIdle ·) = (steps.filter (!isIdle ·)).dropLast := by
  rw [← filter_dropIdle steps]
  rcases List.eq_nil_or_concat (dropIdle steps) with none | ⟨before, last, cut⟩
  · simp [none]
  · have some_step : steps.rdropWhile isIdle ≠ [] := by simp [← dropIdle_eq, cut]
    have leads := List.rdropWhile_last_not isIdle steps some_step
    rw [List.concat_eq_append] at cut
    simp only [← dropIdle_eq, cut, List.getLast_append_singleton] at leads
    simp [cut, leads]

theorem origin_of_relative (relative : p.isAbsolute = false) {first : List UInt8}
    {rest : List (List UInt8)} (cut : split slash p.bytes = first :: rest) :
    p.origin = if first = [dot] then [.here] else [] := by
  simp [origin, relative, cut]

theorem isAbsolute_of_first {first : List UInt8} {rest : List (List UInt8)}
    (cut : split slash p.bytes = first :: rest) (named : first ≠ []) : p.isAbsolute = false := by
  refine Bool.eq_false_iff.mpr fun absolute => ?_
  exact named ((isAbsolute_iff cut).mp absolute).1

theorem of_pieces {first : List UInt8} {steps : List (List UInt8)} (named : first ≠ [])
    (clean : ∀ piece ∈ first :: steps, slash ∉ piece) :
    let d : Path := ⟨join slash (first :: steps)⟩
    d.isAbsolute = false ∧ d.names = (first :: steps).filter (!isIdle ·) ∧
      d.origin = if first = [dot] then [.here] else [] := by
  intro d
  have cut : split slash d.bytes = first :: steps := split_join clean (List.cons_ne_nil _ _)
  have relative := isAbsolute_of_first cut named
  exact ⟨relative, by rw [names, cut], origin_of_relative relative cut⟩

theorem dropIdle_cons {step : List UInt8} (leads : isIdle step = false) (steps : List (List UInt8)) :
    dropIdle (step :: steps) = step :: dropIdle steps := by
  simp only [dropIdle_eq]
  induction steps using List.reverseRecOn with
  | nil => simp [List.rdropWhile_singleton, leads]
  | append_singleton steps last ih =>
    rw [← List.cons_append]
    by_cases idle : isIdle last
    · rw [List.rdropWhile_concat_pos _ _ _ idle, List.rdropWhile_concat_pos _ _ _ idle, ih]
    · rw [List.rdropWhile_concat_neg _ _ _ idle, List.rdropWhile_concat_neg _ _ _ idle,
        List.cons_append]

theorem dropIdle_eq_nil_iff {steps : List (List UInt8)} :
    dropIdle steps = [] ↔ steps.filter (!isIdle ·) = [] := by
  rw [dropIdle_eq, List.rdropWhile_eq_nil_iff, List.filter_eq_nil_iff]
  simp

/-- What a relative path's parent is made of: nothing, or the first piece and what is left of the
others. -/
inductive Above (first : List UInt8) (rest : List (List UInt8)) : Path → Prop where
  | nothing (none : dropIdle rest = []) : Above first rest ⟨[]⟩
  | pieces (some_step : dropIdle rest ≠ []) :
    Above first rest ⟨join slash (first :: dropIdle (dropIdle rest).dropLast)⟩

theorem parent?_above {first : List UInt8} {rest : List (List UInt8)}
    (cut : split slash p.bytes = first :: rest) (named : first ≠ []) (above : p.parent? = some d) :
    Above first rest d := by
  simp only [parent?, cut] at above
  cases idle : isIdle first with
  | true =>
    have here : (first.isEmpty || first == [dot]) = true := idle
    simp only [here, if_true, List.isEmpty_iff, named, if_false] at above
    cases left : dropIdle rest with
    | nil =>
      rw [left] at above
      cases above
      exact .nothing left
    | cons step steps =>
      have made : Above first rest _ := .pieces (by simp [left])
      rw [left] at above made
      dsimp only at above
      split at above
      · rename_i none
        rw [none] at made
        cases above
        exact made
      · cases above
        exact made
  | false =>
    have here : (first.isEmpty || first == [dot]) = false := idle
    simp only [here, Bool.false_eq_true, if_false, dropIdle_cons idle] at above
    cases left : dropIdle rest with
    | nil =>
      rw [left] at above
      cases above
      exact .nothing left
    | cons step steps =>
      have made : Above first rest _ := .pieces (by simp [left])
      rw [left] at above made
      rw [List.dropLast_cons_of_ne_nil (List.cons_ne_nil _ _), dropIdle_cons idle] at above
      cases above
      exact made

theorem names_of_parentless (relative : p.isAbsolute = false) (top : p.parent? = none) :
    p.names = [] := by
  obtain ⟨first, rest, cut⟩ := exists_pieces slash p.bytes
  have named : first = [] := by
    by_contra named
    simp only [parent?, cut, List.isEmpty_iff, named] at top
    split at top
    · split at top
      · simp at top
      · split at top <;> cases top
    · cases top
  have alone : rest = [] := by
    by_contra more
    have absolute := (isAbsolute_iff cut).mpr ⟨named, more⟩
    simp [relative] at absolute
  simp [names, cut, named, alone, isIdle]

theorem parent?_of_relative (relative : p.isAbsolute = false) (above : p.parent? = some d) :
    d.isAbsolute = false ∧ d.names = p.names.dropLast ∧ (d.isEmpty = false → d.origin = p.origin) := by
  obtain ⟨first, rest, cut⟩ := exists_pieces slash p.bytes
  have clean : ∀ piece ∈ first :: rest, slash ∉ piece := cut ▸ split_clean
  have pieces : p.names = (first :: rest).filter (!isIdle ·) := by rw [names, cut]
  have named : first ≠ [] := by
    rintro rfl
    by_cases more : rest = []
    · simp [parent?, cut, more, dropIdle] at above
    · have absolute := (isAbsolute_iff cut).mpr ⟨rfl, more⟩
      simp [relative] at absolute
  rw [pieces, origin_of_relative relative cut]
  cases parent?_above cut named above with
  | nothing none =>
    rw [dropIdle_eq_nil_iff] at none
    refine ⟨rfl, ?_, by simp [isEmpty]⟩
    rw [List.filter_cons, none]
    split <;> rfl
  | pieces some_step =>
    have left : ∀ piece ∈ first :: dropIdle (dropIdle rest).dropLast, slash ∉ piece := by
      intro piece member
      have within : (first :: dropIdle (dropIdle rest).dropLast) ⊆ first :: rest :=
        List.cons_subset_cons _ <| List.Subset.trans (List.rdropWhile_prefix isIdle _).subset <|
          List.Subset.trans (List.dropLast_subset _) (List.rdropWhile_prefix isIdle _).subset
      exact clean piece (within member)
    obtain ⟨still, steps, start⟩ := of_pieces named left
    refine ⟨still, ?_, fun _ => start⟩
    rw [Ne, dropIdle_eq_nil_iff] at some_step
    rw [steps, List.filter_cons, List.filter_cons, filter_dropIdle, filter_dropLast_dropIdle]
    split
    · rw [List.dropLast_cons_of_ne_nil some_step]
    · rfl

theorem exists_parent (long : 2 ≤ p.names.length) : ∃ d, p.parent? = some d ∧ d.isEmpty = false := by
  cases absolute : p.isAbsolute with
  | true =>
    obtain ⟨first, rest, cut⟩ := exists_pieces slash p.bytes
    obtain ⟨rfl, _⟩ := (isAbsolute_iff cut).mp absolute
    have some_step : dropIdle rest ≠ [] := by
      rw [Ne, dropIdle_eq_nil_iff]
      intro none
      rw [names, cut, List.filter_cons_of_neg (by simp [isIdle]), none] at long
      simp at long
    simp only [parent?, cut, List.isEmpty_nil, Bool.true_or, if_true]
    cases left : dropIdle rest with
    | nil => exact absurd left some_step
    | cons step steps =>
      cases dropIdle (step :: steps).dropLast with
      | nil => exact ⟨_, rfl, rfl⟩
      | cons => exact ⟨_, rfl, rfl⟩
  | false =>
    cases above : p.parent? with
    | none => simp [names_of_parentless absolute above] at long
    | some d =>
      refine ⟨d, rfl, Bool.eq_false_iff.mpr fun empty => ?_⟩
      have few := congrArg List.length (parent?_of_relative absolute above).2.1
      rw [names_of_empty empty, List.length_dropLast, List.length_nil] at few
      omega

end MissionWorker.Path
