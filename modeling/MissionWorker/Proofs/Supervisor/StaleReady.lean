import MissionWorker.Proofs.Supervisor.Lifecycle
import MissionWorker.Proofs.Supervisor.Monitoring

namespace MissionWorker.Supervisor

variable {o : Options} {s s' : State} {l : Label} {asked : List Event} {live : Live} {w : Nat}

namespace State

theorem Touches.report {c c' : Child.Channel} (touches : Touches asked w c c') :
    c'.report = c.report ∨ c.signalsOpen = true := by
  cases touches with
  | ask mode =>
    left
    unfold Child.Channel.terminate
    split <;> rfl
  | letGo => exact .inl rfl
  | move held => exact .inr held

/-- What is gone without a report is never reported. -/
theorem step_unreported (taken : s.step o l = some (s', asked)) (ended : s.hasEnded w = true)
    (unreported : s.report? w = none) : s'.report? w = none := by
  unfold hasEnded at ended
  unfold report? at unreported ⊢
  cases here : s.workers[w]? with
  | none => simp [here] at ended
  | some c =>
    simp only [here, Option.any_some, Option.bind_some] at ended unreported
    have gone : c.signalsOpen = false := by simpa [Child.Channel.hasEnded, unreported] using ended
    obtain ⟨c', there, rfl | touches⟩ := (step_channels taken).onward here
    · simpa [there] using unreported
    · rcases touches.report with kept | held
      · simpa [there, kept] using unreported
      · rw [gone] at held
        cases held

theorem outcome?_isSome_of_report? (reported : (s.report? w).isSome) : (s.outcome? w).isSome := by
  unfold report? at reported
  unfold outcome?
  cases here : s.workers[w]? with
  | none => simp [here] at reported
  | some c =>
    rw [here, Option.bind_some] at reported
    rw [Option.bind_some, Child.Channel.outcome?_isSome]
    exact Child.Channel.hasEnded_of_report reported

theorem step_monitors (taken : s.step o l = some (s', asked)) :
    Evolves (fun i m m' => m.done = false ∧ m' = { m with done := true } ∧
        (s.outcome? m.live.worker).isSome ∧ MonitorMove s i m s')
      (fun m => m.done = false) s.monitors s'.monitors := by
  cases step_move taken with
  | enter | worker => exact .same
  | start here move =>
    cases move with
    | register w =>
      show Evolves _ _ _ ((s.releaseAny s.lifecycle.live).monitors ++ _)
      rw [show (s.releaseAny s.lifecycle.live).monitors = s.monitors by cases s.lifecycle.live <;> rfl]
      exact .concat rfl
    | _ => exact .same
  | stop here move => cases move <;> exact .same
  | monitor here pending ended move =>
    cases move with
    | pass elsewhere => exact .set here ⟨pending, rfl, ended, .pass elsewhere⟩
    | demote held same ready => exact .set here ⟨pending, rfl, ended, .demote held same ready⟩
  | caller here move => cases move <;> exact .same

theorem monitor_possible {i : Nat} {m : Monitor} (here : s.monitors[i]? = some m)
    (pending : m.done = false) (ended : (s.outcome? m.live.worker).isSome) :
    ∃ s', s.step o (.monitor i) = some (s', []) := by
  obtain ⟨report, told⟩ := Option.isSome_iff_exists.mp ended
  simp only [step, here, Option.bind_some, stepMonitor, pending, Bool.false_eq_true, if_false, told]
  split
  · exact ⟨_, rfl⟩
  · exact ⟨_, rfl⟩

end State

/-- What a monitor's having looked tells of its worker. -/
structure Looked (s : State) : Prop where
  ended : ∀ {i : Nat} {m : Monitor}, s.monitors[i]? = some m → m.done = true →
    s.hasEnded m.live.worker = true
  /-- The worker is ready all the same only if it went without a report. -/
  unreported : ∀ {i : Nat} {m : Monitor}, s.monitors[i]? = some m → m.done = true →
    s.lifecycle.phase = .ready → s.lifecycle.live = some m.live → s.report? m.live.worker = none

theorem Looked.step (h : Looked s) (coherent : Coherent s) (taken : s.step o l = some (s', asked)) :
    Looked s' := by
  constructor
  · intro i m there done
    apply State.step_hasEnded taken
    rcases (State.step_monitors taken).origin there with old | ⟨n, _, _, rfl, ended, _⟩ | ⟨_, pending⟩
    · exact h.ended old done
    · exact State.hasEnded_of_outcome? ended
    · cases pending.symm.trans done
  · intro i m there done ready held
    rcases coherent.step_ready taken ready held with ⟨already, current⟩ | ⟨op, _, promotes⟩
    · rcases (State.step_monitors taken).origin there with old | ⟨n, _, _, rfl, _, move⟩ | ⟨_, pending⟩
      · have unreported := h.unreported old done already current
        exact State.step_unreported taken (h.ended old done) unreported
      · -- The monitor looks while its worker is ready, so the worker is not ready any more.
        cases move with
        | pass elsewhere => exact absurd already (elsewhere _ current rfl)
        | demote => cases ready
      · cases pending.symm.trans done
    · rw [State.report?, promotes.workers]
      exact promotes.unreported

theorem Reachable.looked (reachable : Reachable o s) : Looked s := by
  induction reachable using Reachable.induction with
  | new => constructor <;> simp
  | kept reachable h taken => exact h.step reachable.coherent taken

theorem Reachable.monitor (reachable : Reachable o s) (held : s.lifecycle.live = some live)
    (ready : s.lifecycle.phase = .ready) :
    ∃ i m, s.monitors[i]? = some m ∧ m.live = live ∧
      ∀ {j : Nat} {n : Monitor}, s.monitors[j]? = some n → n.live.generation = live.generation → j = i := by
  have coherent := reachable.coherent
  have latest := coherent.latest held
  have length := reachable.monitored.length
  have counted := (coherent.settled (by simp [ready])).1
  have generation := latest.generation
  have rank := latest.worker
  have bound : live.worker < s.monitors.length := by omega
  have here := List.getElem?_eq_getElem bound
  have known := reachable.monitored.live here
  refine ⟨live.worker, _, here, ?_, ?_⟩
  · rw [known]
    cases live
    simp_all
  · intro j n there same
    rw [reachable.monitored.live there] at same
    have number : j + 1 = live.generation := same
    omega

theorem Reachable.monitor_live (reachable : Reachable o s) {i : Nat} {m : Monitor}
    (here : s.monitors[i]? = some m) (held : s.lifecycle.live = some live)
    (ready : s.lifecycle.phase = .ready) (same : live.generation = m.live.generation) :
    m.live = live := by
  obtain ⟨j, n, there, known, only⟩ := reachable.monitor held ready
  cases only here same.symm
  cases here.symm.trans there
  exact known

theorem Reachable.monitor_step (reachable : Reachable o s) {i : Nat} {m : Monitor}
    (here : s.monitors[i]? = some m) (taken : s.step o (.monitor i) = some (s', asked)) :
    (s.lifecycle.phase = .ready ∧ s.lifecycle.live = some m.live ∧
      s'.lifecycle = { s.lifecycle with phase := .idle, live := none }) ∨
    (¬ (s.lifecycle.phase = .ready ∧ ∃ live, s.lifecycle.live = some live ∧
        live.generation = m.live.generation) ∧
      s' = s.setMonitor i { m with done := true }) := by
  cases State.step_move taken with
  | monitor there pending ended move =>
    cases here.symm.trans there
    cases move with
    | pass elsewhere =>
      right
      refine ⟨?_, rfl⟩
      rintro ⟨ready, live, held, same⟩
      exact elsewhere live held same ready
    | demote held same ready =>
      left
      rw [reachable.monitor_live here held ready same]
      exact ⟨ready, held, rfl⟩

/-- The only monitor of a worker's generation is still to look, and then leaves the supervisor idle. -/
structure State.Watches (s : State) (o : Options) (i : Nat) (live : Live) : Prop where
  waits : s.monitors[i]? = some { live, done := false }
  only : ∀ {j : Nat} {n : Monitor}, s.monitors[j]? = some n →
    n.live.generation = live.generation → j = i
  idles : ∃ s', s.step o (.monitor i) = some (s', []) ∧ s'.lifecycle.phase = .idle ∧
    s'.lifecycle.live = none

theorem Reachable.watches (reachable : Reachable o s) (ready : s.lifecycle.phase = .ready)
    (held : s.lifecycle.live = some live) (reported : (s.report? live.worker).isSome) :
    ∃ i, s.Watches o i live := by
  obtain ⟨i, ⟨_, done⟩, here, rfl, only⟩ := reachable.monitor held ready
  cases done with
  | true =>
    have unreported := reachable.looked.unreported here rfl ready held
    simp [unreported] at reported
  | false =>
    have told := State.outcome?_isSome_of_report? reported
    obtain ⟨s', taken⟩ := State.monitor_possible (o := o) here rfl told
    refine ⟨i, here, only, s', taken, ?_⟩
    rcases reachable.monitor_step here taken with ⟨_, _, lifecycle⟩ | ⟨other, _⟩
    · rw [lifecycle]
      exact ⟨rfl, rfl⟩
    · exact absurd ⟨ready, _, held, rfl⟩ other

/-- What can be relied on in a state: the worker that is ready has reported no end, unless its monitor
is still to look and then takes it away; and a monitor takes no other worker away. -/
structure NoStaleReady (o : Options) (s : State) : Prop where
  pending : ∀ {live : Live}, s.lifecycle.phase = .ready → s.lifecycle.live = some live →
    (s.report? live.worker).isSome → ∃ i, s.Watches o i live
  settled : (∀ i, s.step o (.monitor i) = none) → s.lifecycle.phase = .ready →
    ∃ live, s.lifecycle.live = some live ∧ s.report? live.worker = none
  demotes : ∀ {i : Nat} {m : Monitor} {s' : State} {asked : List Event},
    s.monitors[i]? = some m → s.step o (.monitor i) = some (s', asked) →
    (s.lifecycle.phase = .ready ∧ s.lifecycle.live = some m.live ∧
      s'.lifecycle = { s.lifecycle with phase := .idle, live := none }) ∨
    (¬ (s.lifecycle.phase = .ready ∧ ∃ live, s.lifecycle.live = some live ∧
        live.generation = m.live.generation) ∧
      s' = s.setMonitor i { m with done := true })

theorem no_stale_ready (reachable : Reachable o s) : NoStaleReady o s where
  pending := reachable.watches
  settled := by
    intro still ready
    have held := (reachable.coherent.settled (by simp [ready])).2.mpr ready
    obtain ⟨live, held⟩ := Option.isSome_iff_exists.mp held
    refine ⟨live, held, ?_⟩
    apply Option.not_isSome_iff_eq_none.mp
    intro reported
    obtain ⟨i, watches⟩ := reachable.watches ready held reported
    obtain ⟨s', taken, _⟩ := watches.idles
    rw [still i] at taken
    cases taken
  demotes := reachable.monitor_step

/-- The worker ends right after it was called ready. -/
theorem no_stale_ready_after_report : ∃ s, Reachable .plain s ∧ s.lifecycle.phase = .ready ∧
    (s.report? 0).isSome ∧ NoStaleReady .plain s := by
  let labels : List Label := Label.smoothStart ++ [.worker 0 (.report (.code 1))]
  exact ⟨_, ⟨labels, _, rfl⟩, rfl, rfl, no_stale_ready ⟨labels, _, rfl⟩⟩

end MissionWorker.Supervisor
