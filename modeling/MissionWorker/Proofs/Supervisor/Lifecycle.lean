import MissionWorker.Proofs.Supervisor.Coherence

namespace MissionWorker.Supervisor

variable {o : Options} {s s' : State} {l : Label} {asked : List Event}

inductive Phase.Leads : Phase → Phase → Prop where
  | start : Leads .idle .starting
  | succeed : Leads .starting .ready
  | fail : Leads .starting .idle
  | die : Leads .ready .idle
  | stop : Leads .ready .stopping
  | stopped : Leads .stopping .idle

namespace Coherent

theorem start_phase (h : Coherent s) {op : Nat} {p : StartPoint} {a : StartAct}
    (here : s.starts[op]? = some p) (move : StartMove o s op p a s' asked) :
    s'.lifecycle.phase = s.lifecycle.phase ∨ s.lifecycle.phase.Leads s'.lifecycle.phase := by
  cases move with
  | register w =>
    left
    rw [State.register_of_none (h.start_fits here).1]
  | promote =>
    right
    rw [h.phase_of_start here rfl]
    exact .succeed
  | abandon =>
    right
    rw [h.phase_of_start here rfl]
    exact .fail
  | _ => exact .inl rfl

theorem stop_phase (h : Coherent s) {op : Nat} {p : StopPoint} {a : StopAct}
    (here : s.stops[op]? = some p) (move : StopMove o s op p a s' asked) :
    s'.lifecycle.phase = s.lifecycle.phase ∨ s.lifecycle.phase.Leads s'.lifecycle.phase := by
  cases move with
  | clear =>
    right
    rw [h.phase_of_stop here rfl]
    exact .stopped
  | _ => exact .inl rfl

theorem caller_phase {i : Nat} {c c' : Caller} {a : CallerAct}
    (move : CallerMove o s i c a s' c' asked) :
    s'.lifecycle.phase = s.lifecycle.phase ∨ s.lifecycle.phase.Leads s'.lifecycle.phase := by
  cases move with
  | create here admitting idle => exact .inr (idle ▸ .start)
  | restart here ready held => exact .inr (ready ▸ .stop)
  | halt here ready held => exact .inr (ready ▸ .stop)
  | haltEmpty here ready missing => exact .inr (ready ▸ .die)
  | _ => exact .inl rfl

theorem step_phase (h : Coherent s) (taken : s.step o l = some (s', asked)) :
    s'.lifecycle.phase = s.lifecycle.phase ∨ s.lifecycle.phase.Leads s'.lifecycle.phase := by
  cases State.step_move taken with
  | enter | worker => exact .inl rfl
  | start here move => exact h.start_phase here move
  | stop here move => exact h.stop_phase here move
  | monitor here pending ended move =>
    cases move with
    | pass => exact .inl rfl
    | demote held same ready => exact .inr (ready ▸ .die)
  | caller here move =>
    have moved := caller_phase move
    exact moved

end Coherent

/-- A start operation calls its worker ready. -/
structure State.Promotes (s : State) (op : Nat) (live : Live) (s' : State) : Prop where
  verified : s.starts[op]? = some (.verified live)
  admitting : s.lifecycle.shuttingDown = false
  held : s.lifecycle.live = some live
  unreported : s.report? live.worker = none
  resolved : s'.starts[op]? = some (.resolved (.ok ()))
  ready : s'.lifecycle.phase = .ready
  still_held : s'.lifecycle.live = some live
  workers : s'.workers = s.workers

namespace Coherent

theorem promotes (h : Coherent s) {op : Nat} {live current : Live}
    (here : s.starts[op]? = some (.verified live)) (admitting : s.lifecycle.shuttingDown = false)
    (held : s.lifecycle.live = some current) (alive : s.report? current.worker = none) :
    s.Promotes op current (s.readied.setStart op (.resolved (.ok ()))) := by
  have own : s.lifecycle.live = some live := (h.start_fits here).1
  obtain rfl : live = current := Option.some.inj (own.symm.trans held)
  have bound := (List.getElem?_eq_some_iff.mp here).1
  exact ⟨here, admitting, held, alive, List.getElem?_set_self bound, rfl, held, rfl⟩

theorem step_ready (h : Coherent s) {live : Live} (taken : s.step o l = some (s', asked))
    (ready : s'.lifecycle.phase = .ready) (held : s'.lifecycle.live = some live) :
    (s.lifecycle.phase = .ready ∧ s.lifecycle.live = some live) ∨
      ∃ op, l = .start op .act ∧ s.Promotes op live s' := by
  cases State.step_move taken with
  | enter | worker => exact .inl ⟨ready, held⟩
  | start here move =>
    cases move with
    | register w =>
      have starting := h.phase_of_start here rfl
      rw [State.register_of_none (h.start_fits here).1] at ready
      cases ready.symm.trans starting
    | promote admitting current same alive =>
      cases current.symm.trans held
      exact .inr ⟨_, rfl, h.promotes here admitting current alive⟩
    | take => cases held
    | abandon => cases ready
    | _ => exact .inl ⟨ready, held⟩
  | stop here move =>
    cases move with
    | clear => cases ready
    | _ => exact .inl ⟨ready, held⟩
  | monitor here pending ended move =>
    cases move with
    | pass => exact .inl ⟨ready, held⟩
    | demote => cases ready
  | caller here move =>
    cases move with
    | restart | halt | create | haltEmpty => cases ready
    | _ => exact .inl ⟨ready, held⟩

end Coherent

def StartPoint.error? : StartPoint → Option StartupError
  | .failed e | .taken e _ | .terminating e _ | .released e => some e
  | .resolved (.error e) | .published (.error e) => some e
  | _ => none

theorem StartPoint.Leads.error {p p' : StartPoint} (leads : p.Leads p')
    (known : p.error? ≠ some .aborted) : p'.error? ≠ some .aborted := by
  cases leads with
  | watch watched still => cases p' <;> simp_all [watched?, error?]
  | fail watched fresh => simpa [error?] using fresh
  | @publish r => cases r <;> exact known
  | _ => simp_all [error?]

theorem Reachable.start_error (reachable : Reachable o s) :
    ∀ {op : Nat} {p : StartPoint}, s.starts[op]? = some p → p.error? ≠ some .aborted := by
  induction reachable using Reachable.induction with
  | new => simp
  | kept _ known taken =>
    intro op p there
    rcases (State.step_starts taken).origin there with old | ⟨q, here, _, _, _, leads⟩ | ⟨_, rfl, _⟩
    · exact known old
    · exact leads.error (known here)
    · simp [StartPoint.error?]

/-- A caller is told that its start was abandoned only where the operation has died. -/
theorem Reachable.aborted (reachable : Reachable o s) :
    ∀ {i : Nat} {c : Caller}, s.callers[i]? = some c →
      c.point = .returned (.error (.startup .aborted)) → ∃ op : Nat, s.starts[op]? = some .died := by
  induction reachable using Reachable.induction with
  | new => simp
  | @kept s l s' asked reachable known taken =>
    intro i c there told
    have persists {op : Nat} (here : s.starts[op]? = some .died) :
        ∃ op : Nat, s'.starts[op]? = some .died := ⟨op, State.step_died taken here⟩
    rcases (State.step_callers taken).origin there with
      old | ⟨before, here, _, _, _, _, move⟩ | ⟨_, job, _, rfl⟩
    · obtain ⟨op, died⟩ := known old told
      exact persists died
    · cases move with
      | abort at_ lost => exact absurd lost reachable.coherent.not_lost
      | startFailed at_ answer =>
        cases told
        rcases State.startOutcome?_eq_some_iff.mp answer with published | ⟨died, _⟩
        · exact absurd rfl (reachable.start_error published)
        · exact persists died
      | @answer generation r at_ =>
        exfalso
        cases r with
        | ok v => simp [State.receiveAnswer] at told
        | error e =>
          simp only [State.receiveAnswer] at told
          split at told
          · simp only [CallerPoint.returned.injEq, Except.error.injEq] at told
            unfold RequestError.ofCall at told
            split at told
            · cases told
            · split at told <;> cases told
          · cases told
      | _ => simp_all [State.finished]
    · cases job <;> simp [State.entry] at told

theorem Coherent.counted (h : Coherent s) : s.workers.length + 1 = s.lifecycle.nextGeneration ∨
    (s.workers.length = s.lifecycle.nextGeneration ∧ 1 ≤ s.lifecycle.nextGeneration ∧
      s.lifecycle.phase = .starting ∧ s.lifecycle.live = none) := by
  by_cases phase : s.lifecycle.phase = .starting
  · obtain ⟨op, told⟩ := Option.isSome_iff_exists.mp (h.starting.mpr phase)
    obtain ⟨p, here, opened⟩ := (h.start_told op).mp told
    have fits := h.start_fits here
    cases p with
    | resolved | published => cases opened
    | launched w =>
      obtain ⟨gone, counted, last⟩ := fits
      exact .inr ⟨counted, by omega, phase, gone⟩
    | failed => exact .inl fits
    | taken | terminating => exact .inl fits.2.1
    | _ => exact .inl fits.2
  · exact .inl (h.settled phase).1

/-- What can be relied on in a state. -/
structure Lawful (o : Options) (s : State) : Prop where
  start_told : s.lifecycle.startOp.isSome ↔ s.lifecycle.phase = .starting
  stop_told : s.lifecycle.stopOp.isSome ↔ s.lifecycle.phase = .stopping
  ready : s.lifecycle.phase = .ready → ∃ live, s.lifecycle.live = some live ∧
    live.generation = s.lifecycle.nextGeneration - 1
  resting : s.lifecycle.phase = .idle ∨ s.lifecycle.phase = .stopping → s.lifecycle.live = none
  starting : s.lifecycle.phase = .starting → ∀ live, s.lifecycle.live = some live →
    live.generation = s.lifecycle.nextGeneration - 1
  generation_pos : 1 ≤ s.lifecycle.nextGeneration
  spawned : s.spawns = s.workers.length
  counted : s.spawns = s.lifecycle.nextGeneration - 1 ∨
    (s.spawns = s.lifecycle.nextGeneration - 1 + 1 ∧ s.lifecycle.phase = .starting)
  phases : ∀ {l : Label} {s' : State} {asked : List Event}, s.step o l = some (s', asked) →
    s'.lifecycle.phase = s.lifecycle.phase ∨ s.lifecycle.phase.Leads s'.lifecycle.phase
  /-- Unless the launch of a worker has broken down. -/
  never_aborted : (∀ op : Nat, s.starts[op]? ≠ some .died) → ∀ c ∈ s.callers,
    c.point ≠ .returned (.error (.startup .aborted))

theorem Coherent.generation (h : Coherent s) {live : Live} (held : s.lifecycle.live = some live) :
    live.generation = s.lifecycle.nextGeneration - 1 := by
  have latest := (h.latest held).generation
  rcases h.counted with counted | ⟨_, _, _, gone⟩
  · omega
  · simp [gone] at held

theorem lifecycle_lawful (reachable : Reachable o s) : Lawful o s := by
  have h := reachable.coherent
  have counted := h.counted
  have spawned := h.spawned
  exact {
    start_told := h.starting
    stop_told := h.stopping
    ready := by
      intro ready
      obtain ⟨live, held⟩ := Option.isSome_iff_exists.mp ((h.settled (by simp [ready])).2.mpr ready)
      exact ⟨live, held, h.generation held⟩
    resting := by
      intro phase
      rcases phase with phase | phase
      · exact h.no_live (by simp [phase]) (by simp [phase])
      · exact h.no_live (by simp [phase]) (by simp [phase])
    starting := fun _ live held => h.generation held
    generation_pos := by omega
    spawned := spawned
    counted := by
      rcases counted with counted | ⟨counted, _, phase, _⟩
      · left
        omega
      · exact .inr ⟨by omega, phase⟩
    phases := h.step_phase
    never_aborted := by
      intro alive c member told
      obtain ⟨i, here⟩ := List.mem_iff_getElem?.mp member
      obtain ⟨op, died⟩ := reachable.aborted here told
      exact alive op died }

theorem lifecycle_lawful_when_ready :
    ∃ s, Reachable .plain s ∧ s.lifecycle.phase = .ready ∧ Lawful .plain s := by
  refine ⟨_, ⟨Label.smoothStart, _, rfl⟩, rfl, ?_⟩
  exact lifecycle_lawful ⟨Label.smoothStart, _, rfl⟩

end MissionWorker.Supervisor
