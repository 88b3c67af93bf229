import MissionWorker.Proofs.Child.Observers
import MissionWorker.Proofs.Supervisor.StaleReady

namespace MissionWorker.Child.Channel

/-- What is known of an end after a history, by those who wait for it and those who look at it. -/
structure Seen (pid : Option Nat) (history : List Act) (c : Channel) : Prop where
  alike : ∀ before later, history = before ++ later →
    (({ pid } : Channel).after before).told pid later = c.outcome? pid
  waits : c.handleOpen = true → (c.act .wait).1 = (c.act (.watch pid)).1
  resolves : c.vanished = false → ((c.outcome? pid).isSome ↔ c.hasExited = true)
  reports : c.vanished = false → ∀ r, c.report = some r ↔ c.outcome? pid = some r
  vanishes : c.vanished = true ↔ history.find? Act.isLast = some .dropSignals
  overlooked : c.vanished = true → c.outcome? pid = some { pid, exit := .unknown } ∧
    c.hasExited = false ∧ c.report = none
  lasts : ∀ later, (c.outcome? pid).isSome → (c.after later).outcome? pid = c.outcome? pid ∧
    (c.after later).report = c.report

theorem report_after_of_closed {c : Channel} (closed : c.signalsOpen = false) (later : List Act) :
    (c.after later).report = c.report := by
  induction later generalizing c with
  | nil => rfl
  | cons a rest ih =>
    obtain ⟨report, still⟩ := act_of_closed closed a
    exact (ih still).trans report

theorem seen (pid : Option Nat) (history : List Act) :
    Seen pid history (({ pid } : Channel).after history) := by
  have known (r : Report) : (({ pid } : Channel).after history).vanished = false →
      ((({ pid } : Channel).after history).report = some r ↔
        (({ pid } : Channel).after history).outcome? pid = some r) := by
    intro reported
    simp [outcome?_eq_some_iff, reported]
  obtain ⟨same, report, signals⟩ := after_new pid history
  constructor
  · rintro before later rfl
    exact told_eq pid pid before later
  · intro held
    simp [act, held, same]
  · intro reported
    simp only [Option.isSome_iff_exists, hasExited, known _ reported]
  · exact fun reported r => known r reported
  · rw [vanished, report, signals]
    cases word : history.find? Act.isLast with
    | none => simp [reported?]
    | some a =>
      have last := List.find?_some word
      cases a <;> simp_all [reported?, Act.isLast]
  · intro gone
    have unreported := (Bool.and_eq_true_iff.mp gone).1
    rw [Option.isNone_iff_eq_none] at unreported
    exact ⟨outcome?_eq_some_iff.mpr (.inr ⟨gone, rfl⟩), by simp [hasExited, unreported], unreported⟩
  · intro later told
    obtain ⟨r, told⟩ := Option.isSome_iff_exists.mp told
    have closed := closed_of_outcome? told
    exact ⟨outcome?_after_of_closed closed, report_after_of_closed closed later⟩

end MissionWorker.Child.Channel

namespace MissionWorker.Supervisor

variable {o : Options} {s s' : State} {l : Label} {asked : List Event} {live : Live} {w : Nat}

namespace State

def hasVanished (s : State) (w : Nat) : Bool := s.workers[w]?.any Child.Channel.vanished

theorem vanished_of_unreported (unreported : s.report? w = none) (told : (s.outcome? w).isSome) :
    s.hasVanished w = true := by
  unfold report? at unreported
  unfold outcome? at told
  unfold hasVanished
  cases here : s.workers[w]? with
  | none => simp [here] at told
  | some c =>
    rw [here, Option.bind_some] at unreported told
    obtain ⟨r, told⟩ := Option.isSome_iff_exists.mp told
    rcases Child.Channel.outcome?_eq_some_iff.mp told with reported | ⟨vanished, _⟩
    · cases unreported.symm.trans reported
    · simpa using vanished

end State

/-- What a supervisor makes of its workers' ends. -/
structure Heeds (o : Options) (s : State) : Prop where
  /-- A worker whose end is known to those who wait for it is called ready only if it has vanished. -/
  promotes : ∀ {l s' asked live}, s.step o l = some (s', asked) → s.lifecycle.phase ≠ .ready →
    s'.lifecycle.phase = .ready → s'.lifecycle.live = some live →
    s.outcome? live.worker = none ∨ s.hasVanished live.worker = true
  settled : (∀ i, s.step o (.monitor i) = none) → s.lifecycle.phase = .ready →
    ∃ live, s.lifecycle.live = some live ∧
      (s.outcome? live.worker = none ∨ s.hasVanished live.worker = true)

theorem Reachable.heeds (reachable : Reachable o s) : Heeds o s := by
  have ended_or {w : Nat} (unreported : s.report? w = none) :
      s.outcome? w = none ∨ s.hasVanished w = true := by
    cases told : s.outcome? w with
    | none => exact .inl rfl
    | some r => exact .inr (State.vanished_of_unreported unreported (by simp [told]))
  constructor
  · intro l s' asked live taken other ready held
    rcases reachable.coherent.step_ready taken ready held with ⟨already, _⟩ | ⟨op, _, promotes⟩
    · exact absurd already other
    · exact ended_or promotes.unreported
  · intro still ready
    have held := (reachable.coherent.settled (by simp [ready])).2.mpr ready
    obtain ⟨live, held⟩ := Option.isSome_iff_exists.mp held
    refine ⟨live, held, ended_or ?_⟩
    apply Option.not_isSome_iff_eq_none.mp
    intro reported
    obtain ⟨i, watches⟩ := reachable.watches ready held reported
    obtain ⟨s', taken, _⟩ := watches.idles
    rw [still i] at taken
    cases taken

/-- The ends of processes as they are seen: by those who wait, by those who look, and by a supervisor,
where both are at work. -/
theorem ends_seen (o : Options) :
    (∀ pid history, Child.Channel.Seen pid history (({ pid } : Child.Channel).after history)) ∧
      ∀ s, Reachable o s → Heeds o s :=
  ⟨Child.Channel.seen, fun _ reachable => reachable.heeds⟩

/-- A process's side goes: one who waits is told, and one who looks sees no end. And where that happens
while a worker is made to load the boundary, its monitor looks in vain, the worker is called ready, and
nobody is left to notice that it is gone. -/
theorem vanished_end_overlooked :
    (({ pid := some 3 } : Child.Channel).acts [.dropSignals, .wait]).map
        (fun (answer, c) => (answer, c.hasExited, c.report)) =
      [(.dropped, false, none), (.ended { pid := some 3, exit := .unknown }, false, none)] ∧
    ∃ (o : Options) (s : State) (live : Live), Reachable o s ∧ s.lifecycle.phase = .ready ∧
      s.lifecycle.live = some live ∧ (s.outcome? live.worker).isSome ∧
      s.report? live.worker = none ∧ ∀ i, s.step o (.monitor i) = none := by
  refine ⟨rfl, ?_⟩
  let o : Options := { Options.plain with reconcile := true }
  let labels : List Label := Label.smoothStart.dropLast ++
    [.worker 0 .vanish, .monitor 0, .start 0 (.reconcileReturned (.ok .null)), .start 0 .act]
  refine ⟨o, _, { generation := 1, worker := 0 }, ⟨labels, _, rfl⟩, rfl, rfl, rfl, rfl, ?_⟩
  intro i
  cases i with
  | zero => rfl
  | succ i => rfl

end MissionWorker.Supervisor
