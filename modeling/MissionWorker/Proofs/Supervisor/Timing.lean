import MissionWorker.Proofs.Supervisor.Run

namespace MissionWorker.Supervisor

abbrev Log := List (Nat × Event)

/-- No wait is given up before its time. -/
def Punctual (o : Options) (log : Log) (now : Nat) : Label → Prop
  | .start op .timeUp => ∀ since, (since, Event.awaitEnd op) ∈ log → since + o.stopTimeout ≤ now
  | .stop op .timeUp => ∀ since, (since, Event.awaitStop op) ∈ log → since + o.stopTimeout ≤ now
  | _ => True

/-- What can come of a new supervisor until a time. -/
inductive Timed (o : Options) : Nat → Log → State → Prop where
  | new : Timed o 0 [] {}
  | step {before now : Nat} {log : Log} {s s' : State} {l : Label} {asked : List Event}
    (timed : Timed o before log s) (onward : before ≤ now) (punctual : Punctual o log now l)
    (taken : s.step o l = some (s', asked)) : Timed o now (log ++ asked.map (now, ·)) s'

variable {o : Options} {now : Nat} {log : Log} {s : State} {asked : List Event}

namespace Timed

theorem history (timed : Timed o now log s) : History o (log.map Prod.snd) s := by
  induction timed with
  | new => exact .new
  | step _ _ _ taken ih =>
    have more := ih.step taken
    simpa [List.map_append, Function.comp_def] using more

theorem reachable (timed : Timed o now log s) : Reachable o s :=
  Reachable.iff_history.mpr ⟨_, timed.history⟩

theorem past (timed : Timed o now log s) : ∀ entry ∈ log, entry.1 ≤ now := by
  induction timed with
  | new => simp
  | step _ onward _ _ ih =>
    intro entry member
    rcases List.mem_append.mp member with old | new
    · exact Nat.le_trans (ih entry old) onward
    · obtain ⟨e, _, rfl⟩ := List.mem_map.mp new
      exact Nat.le_refl _

end Timed

theorem Punctual.of_patience {before : Nat} (past : ∀ entry ∈ log, entry.1 ≤ before) (l : Label) :
    Punctual o log (before + o.stopTimeout) l := by
  unfold Punctual
  split
  · intro since member
    have earlier := past _ member
    exact Nat.add_le_add_right earlier _
  · intro since member
    have earlier := past _ member
    exact Nat.add_le_add_right earlier _
  · trivial

/-- The clock excludes no run: a slow enough one lets every wait last. -/
theorem History.timed (history : History o asked s) :
    ∃ now log, Timed o now log s ∧ log.map Prod.snd = asked := by
  induction history using History.induction with
  | new => exact ⟨0, [], .new, rfl⟩
  | @kept asked s l s' more _ earlier taken =>
    obtain ⟨before, log, timed, rfl⟩ := earlier
    have punctual := Punctual.of_patience (o := o) timed.past l
    refine ⟨_, _, timed.step (Nat.le_add_right _ _) punctual taken, ?_⟩
    simp [Function.comp_def]

end MissionWorker.Supervisor
