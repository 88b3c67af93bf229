import MissionWorker.Supervisor.Step

namespace MissionWorker.Supervisor

variable {o : Options}

namespace State

theorem run_cons_iff {s s' : State} {l : Label} {rest : List Label} {asked : List Event} :
    s.run o (l :: rest) = some (s', asked) ↔
      ∃ between first more, s.step o l = some (between, first) ∧
        between.run o rest = some (s', more) ∧ asked = first ++ more := by
  simp only [run, Option.bind_eq_bind, Option.bind_eq_some_iff, Prod.exists, Option.pure_def,
    Option.some.injEq, Prod.mk.injEq]
  constructor
  · rintro ⟨between, first, taken, last, more, went, rfl, rfl⟩
    exact ⟨between, first, more, taken, went, rfl⟩
  · rintro ⟨between, first, more, taken, went, rfl⟩
    exact ⟨between, first, taken, s', more, went, rfl, rfl⟩

theorem run_append {s between s' : State} {before after : List Label} {first more : List Event}
    (went : s.run o before = some (between, first)) (goes : between.run o after = some (s', more)) :
    s.run o (before ++ after) = some (s', first ++ more) := by
  induction before generalizing s first with
  | nil =>
    cases went
    exact goes
  | cons l rest ih =>
    obtain ⟨next, asked, others, taken, rest, rfl⟩ := run_cons_iff.mp went
    exact run_cons_iff.mpr ⟨next, asked, others ++ more, taken, ih rest, List.append_assoc _ _ _⟩

theorem run_single {s s' : State} {l : Label} {asked : List Event}
    (taken : s.step o l = some (s', asked)) : s.run o [l] = some (s', asked) :=
  run_cons_iff.mpr ⟨s', asked, [], taken, rfl, (List.append_nil asked).symm⟩

end State

/-- What can come of a new supervisor, with all that it has asked until then. -/
def History (o : Options) (asked : List Event) (s : State) : Prop :=
  ∃ labels, ({} : State).run o labels = some (s, asked)

namespace History

theorem new : History o [] {} := ⟨[], rfl⟩

theorem run {asked more : List Event} {s s' : State} {labels : List Label}
    (history : History o asked s) (goes : s.run o labels = some (s', more)) :
    History o (asked ++ more) s' := by
  obtain ⟨before, went⟩ := history
  exact ⟨before ++ labels, State.run_append went goes⟩

theorem step {asked more : List Event} {s s' : State} {l : Label}
    (history : History o asked s) (taken : s.step o l = some (s', more)) :
    History o (asked ++ more) s' := history.run (State.run_single taken)

/-- What holds of a new supervisor and is kept by every step holds of all that can come of it. -/
theorem induction {motive : ∀ asked s, History o asked s → Prop} (new : motive [] {} .new)
    (kept : ∀ {asked s l s' more} (history : History o asked s), motive asked s history →
      ∀ taken : s.step o l = some (s', more), motive (asked ++ more) s' (history.step taken))
    {asked : List Event} {s : State} (history : History o asked s) : motive asked s history := by
  have along : ∀ labels {s s' asked more} (history : History o asked s), motive asked s history →
      ∀ goes : s.run o labels = some (s', more), motive (asked ++ more) s' (history.run goes) := by
    intro labels
    induction labels with
    | nil =>
      intro s s' asked more history holds goes
      cases goes
      simpa using holds
    | cons l rest ih =>
      intro s s' asked more history holds goes
      obtain ⟨between, first, others, taken, onward, rfl⟩ := State.run_cons_iff.mp goes
      have later := ih (history.step taken) (kept history holds taken) onward
      simpa only [List.append_assoc] using later
  obtain ⟨labels, went⟩ := history
  exact along labels History.new new went

end History

namespace Reachable

theorem iff_history {s : State} : Reachable o s ↔ ∃ asked, History o asked s := exists_comm

theorem new : Reachable o {} := ⟨[], [], rfl⟩

theorem run {s s' : State} {labels : List Label} {asked : List Event} (reachable : Reachable o s)
    (goes : s.run o labels = some (s', asked)) : Reachable o s' := by
  obtain ⟨before, history⟩ := iff_history.mp reachable
  exact iff_history.mpr ⟨_, history.run goes⟩

theorem step {s s' : State} {l : Label} {asked : List Event} (reachable : Reachable o s)
    (taken : s.step o l = some (s', asked)) : Reachable o s' := reachable.run (State.run_single taken)

theorem induction {motive : ∀ s, Reachable o s → Prop} (new : motive {} .new)
    (kept : ∀ {s l s' asked} (reachable : Reachable o s), motive s reachable →
      ∀ taken : s.step o l = some (s', asked), motive s' (reachable.step taken))
    {s : State} (reachable : Reachable o s) : motive s reachable := by
  obtain ⟨asked, history⟩ := iff_history.mp reachable
  induction history using History.induction with
  | new => exact new
  | kept history holds taken =>
    exact kept (iff_history.mpr ⟨_, history⟩) (holds (iff_history.mpr ⟨_, history⟩)) taken

theorem stays {holds : State → Prop}
    (kept : ∀ {s l s' asked}, Reachable o s → holds s → s.step o l = some (s', asked) → holds s')
    {labels : List Label} {s s' : State} {asked : List Event} (reachable : Reachable o s)
    (now : holds s) (goes : s.run o labels = some (s', asked)) : holds s' := by
  induction labels generalizing s asked with
  | nil =>
    cases goes
    exact now
  | cons l rest ih =>
    obtain ⟨between, first, more, taken, onward, rfl⟩ := State.run_cons_iff.mp goes
    exact ih (reachable.step taken) (kept reachable now taken) onward

theorem never {holds : State → Prop} {allowed : Event → Prop}
    (kept : ∀ {s l s' asked}, Reachable o s → holds s → s.step o l = some (s', asked) → holds s')
    (limited : ∀ {s l s' asked}, Reachable o s → holds s → s.step o l = some (s', asked) →
      ∀ e ∈ asked, allowed e)
    {labels : List Label} {s s' : State} {asked : List Event} (reachable : Reachable o s)
    (now : holds s) (goes : s.run o labels = some (s', asked)) : ∀ e ∈ asked, allowed e := by
  induction labels generalizing s asked with
  | nil =>
    cases goes
    simp
  | cons l rest ih =>
    obtain ⟨between, first, more, taken, onward, rfl⟩ := State.run_cons_iff.mp goes
    have early := limited reachable now taken
    have late := ih (reachable.step taken) (kept reachable now taken) onward
    intro e member
    rcases List.mem_append.mp member with member | member
    · exact early e member
    · exact late e member

end Reachable

def Options.plain : Options where
  probe := { maxAttempts := 1, interval := 0 }
  recovery := {}
  stopTimeout := 2000
  reconcile := false

def Label.smoothStart : List Label :=
  [.enter .start, .caller 0 .act, .start 0 .act, .start 0 (.launchReturned (.ok (some 1001))),
    .start 0 .act, .start 0 .act, .start 0 (.checkReturned true), .start 0 .act, .start 0 .act]

end MissionWorker.Supervisor
