import MissionWorker.Proofs.Supervisor.Run

namespace MissionWorker.Supervisor

/-- A step: from where it was taken, to where it led, and what it asked. -/
structure Taken where
  before : State
  label : Label
  after : State
  asked : List Event

inductive Trail (o : Options) : List Taken → State → Prop where
  | new : Trail o [] {}
  | step {steps : List Taken} {s s' : State} {l : Label} {asked : List Event}
    (trail : Trail o steps s) (taken : s.step o l = some (s', asked)) :
    Trail o (steps ++ [⟨s, l, s', asked⟩]) s'

variable {o : Options} {s : State} {steps : List Taken} {asked : List Event}

theorem append_cons_eq_concat {α : Type} {xs before after : List α} {x last : α}
    (whole : before ++ x :: after = xs ++ [last]) :
    (before = xs ∧ x = last ∧ after = []) ∨
      ∃ between, after = between ++ [last] ∧ before ++ x :: between = xs := by
  rcases List.eq_nil_or_concat after with rfl | ⟨between, final, rfl⟩
  · obtain ⟨same, one⟩ := List.append_inj' whole rfl
    exact .inl ⟨same, List.singleton_inj.mp one, rfl⟩
  · have longer : (before ++ x :: between) ++ [final] = xs ++ [last] := by
      rw [← whole]
      simp
    obtain ⟨same, one⟩ := List.append_inj' longer rfl
    obtain rfl := List.singleton_inj.mp one
    exact .inr ⟨between, List.concat_eq_append, same⟩

namespace Trail

theorem history (trail : Trail o steps s) : History o (steps.flatMap Taken.asked) s := by
  induction trail with
  | new => exact .new
  | step _ taken ih =>
    have longer := ih.step taken
    simpa using longer

theorem reachable (trail : Trail o steps s) : Reachable o s :=
  Reachable.iff_history.mpr ⟨_, trail.history⟩

theorem of_mem (trail : Trail o steps s) {t : Taken} (member : t ∈ steps) :
    Reachable o t.before ∧ t.before.step o t.label = some (t.after, t.asked) := by
  induction trail with
  | new => cases member
  | step trail taken ih =>
    rcases List.mem_append.mp member with earlier | last
    · exact ih earlier
    · rw [List.mem_singleton.mp last]
      exact ⟨trail.reachable, taken⟩

theorem split {earlier later : List Taken} {t : Taken} (trail : Trail o (earlier ++ t :: later) s) :
    Trail o earlier t.before ∧ t.before.step o t.label = some (t.after, t.asked) := by
  generalize whole : earlier ++ t :: later = steps at trail
  induction trail generalizing later with
  | new => simp at whole
  | @step steps s s' l asked trail taken ih =>
    rcases append_cons_eq_concat whole with ⟨rfl, rfl, rfl⟩ | ⟨between, rfl, shorter⟩
    · exact ⟨trail, taken⟩
    · exact ih shorter

end Trail

/-- Every run leaves a trail. -/
theorem History.trail (history : History o asked s) :
    ∃ steps, Trail o steps s ∧ steps.flatMap Taken.asked = asked := by
  induction history using History.induction with
  | new => exact ⟨[], .new, rfl⟩
  | kept _ earlier taken =>
    obtain ⟨steps, trail, rfl⟩ := earlier
    exact ⟨_, trail.step taken, by simp⟩

end MissionWorker.Supervisor
