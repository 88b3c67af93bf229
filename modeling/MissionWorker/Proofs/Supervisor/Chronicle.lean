import MissionWorker.Proofs.Supervisor.Trail
import MissionWorker.Proofs.Supervisor.Whereabouts

namespace MissionWorker.Supervisor

abbrev Entries := List (Nat × Taken)

namespace Entries

def steps (entries : Entries) : List Taken := entries.map Prod.snd

def log (entries : Entries) : Log := entries.flatMap fun (now, t) => t.asked.map (now, ·)

@[simp] theorem steps_append (entries more : Entries) :
    steps (entries ++ more) = entries.steps ++ more.steps := List.map_append

@[simp] theorem log_append (entries more : Entries) : log (entries ++ more) = entries.log ++ more.log :=
  List.flatMap_append

@[simp] theorem steps_singleton (now : Nat) (t : Taken) : steps [(now, t)] = [t] := rfl

@[simp] theorem log_singleton (now : Nat) (t : Taken) : log [(now, t)] = t.asked.map (now, ·) := by
  simp [log]

theorem log_events (entries : Entries) :
    entries.log.map Prod.snd = entries.steps.flatMap Taken.asked := by
  induction entries with
  | nil => rfl
  | cons entry rest ih =>
    simp only [log, steps, List.flatMap_cons, List.map_append, List.map_cons, List.map_map] at ih ⊢
    rw [ih]
    simp [Function.comp_def]

end Entries

/-- What can come of a new supervisor until a time. No wait is given up before its own time. -/
inductive Chronicle (o : Options) : Nat → Entries → State → Prop where
  | new : Chronicle o 0 [] {}
  | step {before now : Nat} {entries : Entries} {s s' : State} {l : Label} {asked : List Event}
    (chronicle : Chronicle o before entries s) (onward : before ≤ now)
    (punctual : Punctual o entries.log now l) (taken : s.step o l = some (s', asked)) :
    Chronicle o now (entries ++ [(now, ⟨s, l, s', asked⟩)]) s'

namespace Chronicle

variable {o : Options} {now : Nat} {entries : Entries} {s s' : State} {asked : List Event}

theorem timed (chronicle : Chronicle o now entries s) : Timed o now entries.log s := by
  induction chronicle with
  | new => exact .new
  | step _ onward punctual taken ih => simpa using ih.step onward punctual taken

theorem trail (chronicle : Chronicle o now entries s) : Trail o entries.steps s := by
  induction chronicle with
  | new => exact .new
  | step _ _ _ taken ih => simpa using ih.step taken

theorem split {before after : Entries} {since : Nat} {t : Taken}
    (chronicle : Chronicle o now (before ++ (since, t) :: after) s) :
    ∃ till, Chronicle o till before t.before := by
  generalize whole : before ++ (since, t) :: after = entries at chronicle
  induction chronicle generalizing after with
  | new => simp at whole
  | @step till now entries s s' l asked chronicle _ _ taken ih =>
    rcases append_cons_eq_concat whole with ⟨rfl, same, rfl⟩ | ⟨between, rfl, shorter⟩
    · cases same
      exact ⟨till, chronicle⟩
    · exact ih shorter

theorem run {labels : List Label} (chronicle : Chronicle o now entries s)
    (goes : s.run o labels = some (s', asked)) :
    ∃ later more, Chronicle o later (entries ++ more) s' := by
  induction labels generalizing now entries s asked with
  | nil =>
    cases goes
    exact ⟨now, [], by simpa using chronicle⟩
  | cons l rest ih =>
    obtain ⟨between, first, others, taken, onward, rfl⟩ := State.run_cons_iff.mp goes
    have punctual := Punctual.of_patience (o := o) chronicle.timed.past l
    obtain ⟨later, more, longer⟩ :=
      ih (chronicle.step (Nat.le_add_right _ _) punctual taken) onward
    exact ⟨later, _ :: more, by simpa using longer⟩

end Chronicle

def State.DoneWith (s : State) (asked : List Event) (w : Nat) : Prop :=
  s.hasEnded w = true ∨ .outlasted w ∈ asked

variable {o : Options} {now w : Nat} {entries : Entries} {s s' : State} {l : Label}
  {asked more : List Event}

theorem State.DoneWith.step (done : s.DoneWith asked w) (taken : s.step o l = some (s', more)) :
    s'.DoneWith (asked ++ more) w := by
  rcases done with ended | waited
  · exact .inl (State.step_hasEnded taken ended)
  · exact .inr (List.mem_append_left _ waited)

/-- By the clock no wait is over that has not lasted the stop timeout. -/
theorem Chronicle.done_with (chronicle : Chronicle o now entries s)
    (done : s.DoneWith (entries.steps.flatMap Taken.asked) w) :
    s.hasEnded w = true ∨ Outwaited o entries.log w := by
  rcases done with ended | waited
  · exact .inl ended
  · rw [← entries.log_events] at waited
    obtain ⟨⟨till, e⟩, member, rfl⟩ := List.mem_map.mp waited
    exact .inr (chronicle.timed.outwaited member)

end MissionWorker.Supervisor
