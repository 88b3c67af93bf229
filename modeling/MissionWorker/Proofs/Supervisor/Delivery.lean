import MissionWorker.Proofs.Supervisor.Custody

namespace MissionWorker.Supervisor

variable {o : Options} {s s' : State} {l : Label} {asked more : List Event} {op v w : Nat}
  {mode : Child.Termination} {handle : Nat × Bool} {once : Bool}

def State.handleOpen (s : State) (w : Nat) : Bool := s.workers[w]?.any Child.Channel.handleOpen

namespace State

theorem handleOpen_onWorker {f : Child.Channel → Child.Channel}
    (keeps : ∀ c, (f c).handleOpen = c.handleOpen) :
    (s.onWorker v f).handleOpen w = s.handleOpen w := by
  by_cases same : v = w
  · subst same
    cases here : s.workers[v]? <;> simp [handleOpen, onWorker, here, keeps]
  · simp [handleOpen, onWorker, List.getElem?_modify_ne _ _ same]

theorem handleOpen_asked {live : Live} : (s.asked o live).handleOpen w = s.handleOpen w := by
  apply handleOpen_onWorker
  intro c
  unfold Child.Channel.terminate
  split <;> rfl

theorem handleOpen_spawned {pid : Option Nat} (opened : s.handleOpen w = true) :
    (s.spawned op pid).handleOpen w = true := by
  unfold handleOpen at opened
  cases here : s.workers[w]? with
  | none => simp [here] at opened
  | some c =>
    have bound := (List.getElem?_eq_some_iff.mp here).1
    simpa [handleOpen, spawned, setStart, List.getElem?_append_left bound, here] using opened

theorem step_handleOpen_new (taken : s.step o l = some (s', more))
    (workers : s'.workers.length = s.workers.length + 1) :
    s'.handleOpen s.workers.length = true := by
  have there : s'.workers[s.workers.length]? = some s'.workers[s.workers.length] :=
    List.getElem?_eq_getElem (by omega)
  rcases (step_channels taken).origin there with old | ⟨c, old, _⟩ | ⟨_, pid, new⟩
  · exact absurd (List.getElem?_eq_some_iff.mp old).1 (Nat.lt_irrefl _)
  · exact absurd (List.getElem?_eq_some_iff.mp old).1 (Nat.lt_irrefl _)
  · rw [handleOpen, there, new]
    rfl

end State

theorem WorkerMove.handleOpen {c c' : Child.Channel} (move : WorkerMove w c c' more) :
    c'.handleOpen = c.handleOpen := by
  cases move with
  | receive next =>
    unfold Child.Channel.receive? at next
    split at next
    · cases next
      rfl
    · split at next <;> cases next
      rfl
  | report | vanish => rfl

namespace Coherent

theorem step_handleOpen (h : Coherent s) (taken : s.step o l = some (s', more))
    (held : s'.Holds handle) (opened : s.handleOpen w = true) : s'.handleOpen w = true := by
  cases State.step_move taken with
  | enter => exact opened
  | start here move =>
    have fits := h.start_fits here
    cases move with
    | spawn pid => exact State.handleOpen_spawned opened
    | register v =>
      rw [State.register_of_none fits.1]
      exact opened
    | terminate => exact State.handleOpen_asked.trans opened
    | spare | ended | outlast =>
      exact absurd held (h.holds_none_of_start here rfl rfl rfl fits.1 rfl)
    | _ => exact opened
  | stop here move =>
    cases move with
    | terminate => exact State.handleOpen_asked.trans opened
    | spare | ended | outlast => exact absurd held (h.holds_none_of_stop here rfl rfl rfl rfl rfl)
    | clear | publish => exact opened
  | monitor here pending ended move =>
    cases move with
    | pass => exact opened
    | demote => exact absurd held ((h.step taken).holds_of_idle rfl _)
  | caller here move => cases move <;> exact opened
  | @worker v c c' _ _ here signals move =>
    by_cases same : v = w
    · subst same
      have bound := (List.getElem?_eq_some_iff.mp here).1
      simpa [State.handleOpen, State.setWorker, List.getElem?_set_self bound, here,
        move.handleOpen] using opened
    · simpa [State.handleOpen, State.setWorker, List.getElem?_set_ne same] using opened

end Coherent

/-- Whoever holds a worker's handle can still ask through it. -/
theorem Reachable.handleOpen (reachable : Reachable o s) :
    ∀ {w : Nat} {once : Bool}, s.Holds (w, once) → s.handleOpen w = true := by
  induction reachable using Reachable.induction with
  | new =>
    rintro w once ⟨k, held⟩
    cases k <;> simp [State.held?] at held
  | kept reachable opened taken =>
    intro w once held
    have h := reachable.coherent
    cases reachable.handover taken with
    | still same => exact h.step_handleOpen taken held (opened ((same _).mp held))
    | ask before after =>
      cases (after _).mp held
      exact h.step_handleOpen taken held (opened before)
    | letGo before after | outlast before after => exact absurd held (after _)
    | spawn before after workers =>
      cases (after _).mp held
      exact State.step_handleOpen_new taken workers

namespace State

theorem step_asks (taken : s.step o l = some (s', more)) (told : .terminate w mode ∈ more) :
    s.report? w = none ∧ s'.workers = s.workers.modify w (Child.Channel.terminate mode) := by
  cases step_move taken with
  | enter | monitor => cases told
  | start here move =>
    cases move with
    | terminate alive =>
      simp only [List.mem_cons, Event.terminate.injEq, reduceCtorEq, List.not_mem_nil, or_false] at told
      obtain ⟨rfl, rfl⟩ := told
      exact ⟨alive, rfl⟩
    | watch move => cases move <;> simp at told
    | _ => simp at told
  | stop here move =>
    cases move with
    | terminate alive =>
      simp only [List.mem_cons, Event.terminate.injEq, reduceCtorEq, List.not_mem_nil, or_false] at told
      obtain ⟨rfl, rfl⟩ := told
      exact ⟨alive, rfl⟩
    | _ => simp at told
  | caller here move => cases move <;> simp at told
  | worker here held move => cases move <;> simp at told

end State

/-- A request is put into the open channel of its worker, by the act of the handle. -/
theorem Reachable.step_terminate (reachable : Reachable o s) (taken : s.step o l = some (s', more))
    (told : .terminate w mode ∈ more) :
    ∃ c, s.workers[w]? = some c ∧ c.report = none ∧
      c.act (.terminate mode) = (.sent, c.terminate mode) ∧
      s'.workers[w]? = some (c.terminate mode) := by
  obtain ⟨alive, changed⟩ := State.step_asks taken told
  have held : s.Holds (w, false) := by
    cases reachable.handover taken with
    | still _ _ quiet => cases quiet _ told
    | ask before _ _ quiet =>
      rcases List.mem_cons.mp told with same | member
      · cases same
        exact before
      · cases List.mem_singleton.mp member
        cases quiet
    | outlast => simp at told
    | spawn | letGo => cases told
  have opened := reachable.handleOpen held
  unfold State.handleOpen at opened
  cases here : s.workers[w]? with
  | none => simp [here] at opened
  | some c =>
    simp only [here, Option.any_some] at opened
    refine ⟨c, rfl, ?_, by simp [Child.Channel.act, opened], by simp [changed, here]⟩
    simpa [State.report?, here] using alive

theorem State.Touches.keeps {c c' : Child.Channel} (touches : State.Touches more w c c')
    (waits : mode ∈ c.requests) (alive : c'.hasEnded = false) :
    .received w mode ∈ more ∨ mode ∈ c'.requests := by
  cases touches with
  | ask other => exact .inr (Child.Channel.mem_terminate waits)
  | letGo => exact .inr waits
  | move held move =>
    cases move with
    | @receive first _ next =>
      rcases Child.Channel.mem_of_receive? next waits with rfl | still
      · exact .inl (List.mem_singleton_self _)
      · exact .inr still
    | report => cases alive
    | vanish => simp [Child.Channel.hasEnded, Child.Channel.dropSignals] at alive

theorem History.sent (history : History o asked s) (told : .terminate w mode ∈ asked)
    (alive : s.hasEnded w = false) :
    .received w mode ∈ asked ∨ ∃ c, s.workers[w]? = some c ∧ mode ∈ c.requests := by
  induction history using History.induction with
  | new => cases told
  | @kept asked s l s' more history ih taken =>
    have before : s.hasEnded w = false := by
      refine Bool.eq_false_iff.mpr fun ended => ?_
      rw [State.step_hasEnded taken ended] at alive
      cases alive
    rcases List.mem_append.mp told with early | late
    · rcases ih early before with received | ⟨c, here, waits⟩
      · exact .inl (List.mem_append_left _ received)
      · obtain ⟨c', there, rfl | touches⟩ := (State.step_channels taken).onward here
        · exact .inr ⟨c', there, waits⟩
        · simp only [State.hasEnded, there, Option.any_some] at alive
          rcases touches.keeps waits alive with received | still
          · exact .inl (List.mem_append_right _ received)
          · exact .inr ⟨c', there, still⟩
    · have reachable : Reachable o s := Reachable.iff_history.mpr ⟨asked, history⟩
      obtain ⟨c, _, _, _, there⟩ := reachable.step_terminate taken late
      simp only [State.hasEnded, there, Option.any_some] at alive
      exact .inr ⟨_, there, Child.Channel.mem_terminate_self alive⟩

/-- Whatever was sent to a worker that has not ended its process has received, or receives next. -/
def State.Delivers (s : State) (o : Options) (asked : List Event) : Prop :=
  ∀ {w : Nat} {mode : Child.Termination}, .terminate w mode ∈ asked → s.hasEnded w = false →
    .received w mode ∈ asked ∨
      ∃ s', s.step o (.worker w .receive) = some (s', [.received w mode])

theorem History.delivers (history : History o asked s) : s.Delivers o asked := by
  intro w mode told alive
  refine (history.sent told alive).imp_right ?_
  rintro ⟨c, here, waits⟩
  -- No worker is asked twice, so nothing else waits before it.
  have alone : c.requests = [mode] := by
    have few := Nat.le_trans (history.requests here) (history.accounted.once w)
    match c.requests, waits, few with
    | [first], waits, _ => rw [List.mem_singleton.mp waits]
    | _ :: _ :: _, _, few => simp at few
  have signals : c.signalsOpen = true := by
    simp only [State.hasEnded, here, Option.any_some] at alive
    exact Child.Channel.signalsOpen_of_alive alive
  refine ⟨s.setWorker w { c with requests := [] }, ?_⟩
  simp [State.step, here, State.stepWorker, signals, Child.Channel.receive?, alone, State.setWorker]

end MissionWorker.Supervisor
