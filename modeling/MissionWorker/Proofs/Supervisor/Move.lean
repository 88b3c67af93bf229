import MissionWorker.Proofs.Supervisor.Run

namespace MissionWorker.Supervisor

/-- The worker that a start operation watches over: known to the others, and not yet given up. -/
def StartPoint.watched? : StartPoint → Option Live
  | .polling live _ | .checking live _ | .pausing live _ => some live
  | .healthy live | .reconciling live | .verified live => some live
  | _ => none

namespace State

def create (s : State) : State :=
  { s with
    lifecycle := { s.lifecycle with phase := .starting, startOp := some s.starts.length }
    starts := s.starts ++ [.created] }

def divert (s : State) (live : Live) : State :=
  { s with
    lifecycle := { s.lifecycle with
      live := none, phase := .stopping, stopOp := some s.stops.length }
    stops := s.stops ++ [.created live] }

def forget (s : State) : State := { s with lifecycle := { s.lifecycle with live := none } }

def readied (s : State) : State :=
  { s with lifecycle := { s.lifecycle with phase := .ready, startOp := none } }

def abandoned (s : State) : State :=
  { s with lifecycle := { s.lifecycle with phase := .idle, startOp := none } }

def halted (s : State) : State :=
  { s with lifecycle := { s.lifecycle with phase := .idle, stopOp := none } }

def demoted (s : State) : State :=
  { s with lifecycle := { s.lifecycle with live := none, phase := .idle } }

def asked (s : State) (o : Options) (live : Live) : State :=
  s.onWorker live.worker (Child.Channel.terminate (.graceful o.stopTimeout))

def setMonitor (s : State) (i : Nat) (m : Monitor) : State :=
  { s with monitors := s.monitors.set i m }

def setWorker (s : State) (w : Nat) (c : Child.Channel) : State :=
  { s with workers := s.workers.set w c }

end State

inductive WatchMove (o : Options) (s : State) (op : Nat) :
    StartPoint → StartAct → StartPoint → List Event → Prop where
  | check {live : Live} {n : Nat} (wanted : s.cancelled = false) :
    WatchMove o s op (.polling live n) .act (.checking live n) [.check op]
  | leave {live : Live} {n : Nat} (cancelled : s.cancelled = true) :
    WatchMove o s op (.polling live n) .act (.failed .cancelled) []
  | healthy {live : Live} {n : Nat} :
    WatchMove o s op (.checking live n) (.checkReturned true) (.healthy live) []
  | pause {live : Live} {n : Nat} (more : n < o.probe.maxAttempts) :
    WatchMove o s op (.checking live n) (.checkReturned false) (.pausing live n) [.pause op]
  | exhaust {live : Live} {n : Nat} (last : o.probe.maxAttempts ≤ n) :
    WatchMove o s op (.checking live n) (.checkReturned false)
      (.failed (.timeout o.probe.maxAttempts)) []
  | again {live : Live} {n : Nat} :
    WatchMove o s op (.pausing live n) .pauseOver (.polling live (n + 1)) []
  | noticeEnd {p : StartPoint} {live : Live} {n : Nat} {report : Child.Report}
    (probing : p = .polling live n ∨ p = .checking live n ∨ p = .pausing live n)
    (ended : s.outcome? live.worker = some report) :
    WatchMove o s op p .noticeEnd (.failed (.exited report)) []
  | noticeCancel {p : StartPoint} {live : Live}
    (waiting : (∃ n, p = .checking live n) ∨ (∃ n, p = .pausing live n) ∨ p = .reconciling live ∨
      (p = .healthy live ∧ o.reconcile = true))
    (cancelled : s.cancelled = true) :
    WatchMove o s op p .noticeCancel (.failed .cancelled) []
  | reconcile {live : Live} (wanted : o.reconcile = true) :
    WatchMove o s op (.healthy live) .act (.reconciling live) [.reconcile op]
  | skip {live : Live} (unwanted : o.reconcile = false) :
    WatchMove o s op (.healthy live) .act (.verified live) []
  | reconciled {live : Live} {r : Except Bridge.Error Json} :
    WatchMove o s op (.reconciling live) (.reconcileReturned r) (.verified live) []
  | refuse {live : Live} (closed : s.lifecycle.shuttingDown = true) :
    WatchMove o s op (.verified live) .act (.failed .cancelled) []
  | bury {live current : Live} {report : Child.Report} (admitting : s.lifecycle.shuttingDown = false)
    (held : s.lifecycle.live = some current) (same : current.generation = live.generation)
    (ended : s.report? current.worker = some report) :
    WatchMove o s op (.verified live) .act (.failed (.exited report)) []
  | lose {live : Live} (admitting : s.lifecycle.shuttingDown = false)
    (elsewhere : ∀ current, s.lifecycle.live = some current →
      current.generation ≠ live.generation) :
    WatchMove o s op (.verified live) .act
      (.failed (.exited { pid := none, exit := .unknown })) []

inductive StartMove (o : Options) (s : State) (op : Nat) :
    StartPoint → StartAct → State → List Event → Prop where
  | call : StartMove o s op .created .act (s.setStart op .launching) [.launch op]
  | spawn (pid : Option Nat) :
    StartMove o s op .launching (.launchReturned (.ok pid)) (s.spawned op pid) []
  | refuse (e : Launch.Error) :
    StartMove o s op .launching (.launchReturned (.error e)) (s.setStart op (.failed (.launch e))) []
  | breakDown : StartMove o s op .launching .breakDown (s.setStart op .died) []
  | register (worker : Nat) : StartMove o s op (.launched worker) .act (s.register op worker) []
  | watch {p p' : StartPoint} {a : StartAct} {asked : List Event}
    (move : WatchMove o s op p a p' asked) : StartMove o s op p a (s.setStart op p') asked
  | promote {live current : Live} (admitting : s.lifecycle.shuttingDown = false)
    (held : s.lifecycle.live = some current) (same : current.generation = live.generation)
    (alive : s.report? current.worker = none) :
    StartMove o s op (.verified live) .act (s.readied.setStart op (.resolved (.ok ()))) []
  | take {e : StartupError} {live : Live} (held : s.lifecycle.live = some live) :
    StartMove o s op (.failed e) .act (s.forget.setStart op (.taken e live)) []
  | miss {e : StartupError} (missing : s.lifecycle.live = none) :
    StartMove o s op (.failed e) .act (s.setStart op (.released e)) []
  | terminate {e : StartupError} {live : Live} (alive : s.report? live.worker = none) :
    StartMove o s op (.taken e live) .act ((s.asked o live).setStart op (.terminating e live))
      [.terminate live.worker (.graceful o.stopTimeout), .awaitEnd op]
  | spare {e : StartupError} {live : Live} (final : (s.report? live.worker).isSome) :
    StartMove o s op (.taken e live) .act ((s.release live).setStart op (.released e)) []
  | ended {e : StartupError} {live : Live} (final : (s.outcome? live.worker).isSome) :
    StartMove o s op (.terminating e live) .noticeEnd
      ((s.release live).setStart op (.released e)) []
  | outlast {e : StartupError} {live : Live} :
    StartMove o s op (.terminating e live) .timeUp
      ((s.release live).setStart op (.released e)) [.outlasted live.worker]
  | abandon {e : StartupError} :
    StartMove o s op (.released e) .act (s.abandoned.setStart op (.resolved (.error e))) []
  | publish {r : Except StartupError Unit} :
    StartMove o s op (.resolved r) .act (s.setStart op (.published r)) []

inductive StopMove (o : Options) (s : State) (op : Nat) :
    StopPoint → StopAct → State → List Event → Prop where
  | terminate {live : Live} (alive : s.report? live.worker = none) :
    StopMove o s op (.created live) .act ((s.asked o live).setStop op (.terminating live))
      [.terminate live.worker (.graceful o.stopTimeout), .awaitStop op]
  | spare {live : Live} (final : (s.report? live.worker).isSome) :
    StopMove o s op (.created live) .act ((s.release live).setStop op .released) []
  | ended {live : Live} (final : (s.outcome? live.worker).isSome) :
    StopMove o s op (.terminating live) .noticeEnd ((s.release live).setStop op .released) []
  | outlast {live : Live} :
    StopMove o s op (.terminating live) .timeUp ((s.release live).setStop op .released)
      [.outlasted live.worker]
  | clear : StopMove o s op .released .act (s.halted.setStop op .cleared) []
  | publish : StopMove o s op .cleared .act (s.setStop op .done) []

inductive MonitorMove (s : State) (i : Nat) (m : Monitor) : State → Prop where
  | pass (elsewhere : ∀ live, s.lifecycle.live = some live →
      live.generation = m.live.generation → s.lifecycle.phase ≠ .ready) :
    MonitorMove s i m (s.setMonitor i { m with done := true })
  | demote {live : Live} (held : s.lifecycle.live = some live)
    (same : live.generation = m.live.generation) (ready : s.lifecycle.phase = .ready) :
    MonitorMove s i m ((s.setMonitor i { m with done := true }).release live).demoted

inductive CallerMove (o : Options) (s : State) (i : Nat) (c : Caller) :
    CallerAct → State → Caller → List Event → Prop where
  | drop (waiting : State.isWaiting c.point) :
    CallerMove o s i c .drop s { c with point := .dropped } []
  | answer {generation : Nat} (r : Except Bridge.Error Json) (here : c.point = .calling generation) :
    CallerMove o s i c (.callReturned r) s (State.receiveAnswer o c generation r) []
  | refuse (here : c.point = .ensuring) (closed : s.lifecycle.shuttingDown = true) :
    CallerMove o s i c .act s { c with point := .returned (.error (.startup .shuttingDown)) } []
  /-- The lifecycle does not tell of the worker or the operation that it should tell of. -/
  | abort (here : c.point = .ensuring)
    (lost : (s.lifecycle.phase = .ready ∧ s.lifecycle.live = none) ∨
      (s.lifecycle.phase = .starting ∧ s.lifecycle.startOp = none) ∨
      (s.lifecycle.phase = .stopping ∧ s.lifecycle.stopOp = none)) :
    CallerMove o s i c .act s { c with point := .returned (.error (.startup .aborted)) } []
  | find {live : Live} (here : c.point = .ensuring) (admitting : s.lifecycle.shuttingDown = false)
    (ready : s.lifecycle.phase = .ready) (held : s.lifecycle.live = some live) :
    CallerMove o s i c .act s { c with point := .ensured live.generation } []
  | join {op : Nat} (here : c.point = .ensuring) (admitting : s.lifecycle.shuttingDown = false)
    (starting : s.lifecycle.phase = .starting) (told : s.lifecycle.startOp = some op) :
    CallerMove o s i c .act s { c with point := .awaitingStart op } []
  | queue {op : Nat} (here : c.point = .ensuring) (admitting : s.lifecycle.shuttingDown = false)
    (stopping : s.lifecycle.phase = .stopping) (told : s.lifecycle.stopOp = some op) :
    CallerMove o s i c .act s { c with point := .awaitingStop op } []
  | create (here : c.point = .ensuring) (admitting : s.lifecycle.shuttingDown = false)
    (idle : s.lifecycle.phase = .idle) :
    CallerMove o s i c .act s.create { c with point := .awaitingStart s.starts.length } []
  | started {op : Nat} (here : c.point = .awaitingStart op)
    (told : s.startOutcome? op = some (.ok ())) :
    CallerMove o s i c .act s { c with point := .ensuring } []
  | startFailed {op : Nat} {e : StartupError} (here : c.point = .awaitingStart op)
    (told : s.startOutcome? op = some (.error e)) :
    CallerMove o s i c .act s { c with point := .returned (.error (.startup e)) } []
  | stopped {op : Nat} (here : c.point = .awaitingStop op ∨ c.point = .awaitingRestart op)
    (final : s.stopIsDone op) :
    CallerMove o s i c .act s { c with point := .ensuring } []
  | call {generation : Nat} {endpoint : String} {payload : Option Json}
    (here : c.point = .ensured generation) (wanted : c.job = .request endpoint payload) :
    CallerMove o s i c .act s { c with point := .calling generation } [.call i endpoint payload]
  | finish {generation : Nat} (here : c.point = .ensured generation)
    (wanted : ∀ endpoint payload, c.job ≠ .request endpoint payload) :
    CallerMove o s i c .act s { c with point := State.finished } []
  | restart {live : Live} (here : c.point = .restarting live.generation)
    (ready : s.lifecycle.phase = .ready) (held : s.lifecycle.live = some live) :
    CallerMove o s i c .act ((s.count live.generation).divert live)
      { c with point := .awaitingRestart s.stops.length } []
  | restartEnded {generation : Nat} (here : c.point = .restarting generation)
    (idle : s.lifecycle.phase = .idle) (last : generation + 1 = s.lifecycle.nextGeneration)
    (fresh : s.lifecycle.restarted < generation) :
    CallerMove o s i c .act (s.count generation) { c with point := .ensuring } []
  | restartStale {generation : Nat} (here : c.point = .restarting generation)
    (replaced : ∀ live, s.lifecycle.phase = .ready → s.lifecycle.live = some live →
      live.generation ≠ generation)
    (counted : s.lifecycle.phase = .idle → generation + 1 = s.lifecycle.nextGeneration →
      generation ≤ s.lifecycle.restarted) :
    CallerMove o s i c .act s { c with point := .ensuring } []
  | announce (here : c.point = .announcing) :
    CallerMove o s i c .act { s with lifecycle := { s.lifecycle with shuttingDown := true } }
      { c with point := .cancelling } []
  | cancel (here : c.point = .cancelling) :
    CallerMove o s i c .act { s with cancelled := true } { c with point := .stopping } []
  | haltIdle (here : c.point = .stopping) (idle : s.lifecycle.phase = .idle) :
    CallerMove o s i c .act s { c with point := State.finished } []
  | haltLost (here : c.point = .stopping)
    (lost : (s.lifecycle.phase = .starting ∧ s.lifecycle.startOp = none) ∨
      (s.lifecycle.phase = .stopping ∧ s.lifecycle.stopOp = none)) :
    CallerMove o s i c .act s { c with point := State.finished } []
  | haltEmpty (here : c.point = .stopping) (ready : s.lifecycle.phase = .ready)
    (missing : s.lifecycle.live = none) :
    CallerMove o s i c .act { s with lifecycle := { s.lifecycle with phase := .idle } }
      { c with point := State.finished } []
  | haltStart {op : Nat} (here : c.point = .stopping) (starting : s.lifecycle.phase = .starting)
    (told : s.lifecycle.startOp = some op) :
    CallerMove o s i c .act s { c with point := .outwaitingStart op } []
  | haltStop {op : Nat} (here : c.point = .stopping) (stopping : s.lifecycle.phase = .stopping)
    (told : s.lifecycle.stopOp = some op) :
    CallerMove o s i c .act s { c with point := .outwaitingStop op } []
  | halt {live : Live} (here : c.point = .stopping) (ready : s.lifecycle.phase = .ready)
    (held : s.lifecycle.live = some live) :
    CallerMove o s i c .act (s.divert live) { c with point := .outwaitingStop s.stops.length } []
  | outwaitedStart {op : Nat} (here : c.point = .outwaitingStart op)
    (told : (s.startOutcome? op).isSome) :
    CallerMove o s i c .act s { c with point := .stopping } []
  | outwaitedStop {op : Nat} (here : c.point = .outwaitingStop op) (final : s.stopIsDone op) :
    CallerMove o s i c .act s { c with point := State.finished } []

inductive WorkerMove (w : Nat) (c : Child.Channel) : Child.Channel → List Event → Prop where
  | receive {mode : Child.Termination} {c' : Child.Channel} (next : c.receive? = some (mode, c')) :
    WorkerMove w c c' [.received w mode]
  | report (exit : Child.Exit) : WorkerMove w c (c.reportExit { pid := c.pid, exit }) []
  | vanish : WorkerMove w c c.dropSignals []

/-- What a step can do. -/
inductive Move (o : Options) (s : State) : Label → State → List Event → Prop where
  | enter (job : Job) :
    Move o s (.enter job) { s with callers := s.callers ++ [{ job, point := State.entry job }] } []
  | start {op : Nat} {p : StartPoint} {a : StartAct} {s' : State} {asked : List Event}
    (here : s.starts[op]? = some p) (move : StartMove o s op p a s' asked) :
    Move o s (.start op a) s' asked
  | stop {op : Nat} {p : StopPoint} {a : StopAct} {s' : State} {asked : List Event}
    (here : s.stops[op]? = some p) (move : StopMove o s op p a s' asked) :
    Move o s (.stop op a) s' asked
  | monitor {i : Nat} {m : Monitor} {s' : State} (here : s.monitors[i]? = some m)
    (pending : m.done = false) (ended : (s.outcome? m.live.worker).isSome)
    (move : MonitorMove s i m s') :
    Move o s (.monitor i) s' []
  | caller {i : Nat} {c c' : Caller} {a : CallerAct} {s' : State} {asked : List Event}
    (here : s.callers[i]? = some c) (move : CallerMove o s i c a s' c' asked) :
    Move o s (.caller i a) (s'.setCaller i c') asked
  | worker {w : Nat} {c c' : Child.Channel} {a : WorkerAct} {asked : List Event}
    (here : s.workers[w]? = some c) (held : c.signalsOpen = true) (move : WorkerMove w c c' asked) :
    Move o s (.worker w a) (s.setWorker w c') asked

namespace State

variable {o : Options} {s s' : State} {asked : List Event}

theorem terminate_of_alive {live : Live} (alive : s.report? live.worker = none) :
    s.terminate o live =
      (some (.terminate live.worker (.graceful o.stopTimeout)), s.asked o live) := by
  simp [terminate, alive, State.asked]

theorem terminate_of_ended {live : Live} (final : (s.report? live.worker).isSome) :
    s.terminate o live = (none, s.release live) := by
  simp [terminate, final]

theorem promote_move {op : Nat} {live : Live} :
    StartMove o s op (.verified live) .act (s.promote op live) [] := by
  unfold promote
  split
  · rename_i closed
    exact .watch (.refuse closed)
  · rename_i admitting
    simp only [Bool.not_eq_true] at admitting
    cases held : s.lifecycle.live with
    | none => exact .watch (.lose admitting (by simp [held]))
    | some current =>
      by_cases same : current.generation = live.generation
      · cases ended : s.report? current.worker with
        | none => simpa [same, ended] using .promote admitting held same ended
        | some report => simpa [same, ended] using .watch (.bury admitting held same ended)
      · simpa [same] using .watch (.lose admitting (by simp [held, same]))

section Start

variable {op n : Nat} {live : Live} {p : StartPoint} {e : StartupError}

theorem poll_move (taken : s.stepStart o op (.polling live n) .act = some (s', asked)) :
    StartMove o s op (.polling live n) .act s' asked := by
  simp only [stepStart] at taken
  split at taken
  · rename_i cancelled
    cases taken
    exact .watch (.leave cancelled)
  · rename_i wanted
    cases taken
    exact .watch (.check (by simpa using wanted))

theorem checkReturned_move {healthy : Bool}
    (taken : s.stepStart o op (.checking live n) (.checkReturned healthy) = some (s', asked)) :
    StartMove o s op (.checking live n) (.checkReturned healthy) s' asked := by
  cases healthy with
  | true => cases taken; exact .watch .healthy
  | false =>
    simp only [stepStart, Bool.false_eq_true, ↓reduceIte] at taken
    split at taken
    · rename_i more
      cases taken
      exact .watch (.pause more)
    · rename_i last
      cases taken
      exact .watch (.exhaust (Nat.le_of_not_lt last))

theorem noticeEnd_move (probing : p = .polling live n ∨ p = .checking live n ∨ p = .pausing live n)
    (taken : s.stepStart o op p .noticeEnd = some (s', asked)) :
    StartMove o s op p .noticeEnd s' asked := by
  have ends : s.stepStart o op p .noticeEnd = (s.outcome? live.worker).bind fun report =>
      (s.setStart op (.failed (.exited report))).quietly := by
    rcases probing with rfl | rfl | rfl <;> rfl
  obtain ⟨report, ended, taken⟩ := Option.bind_eq_some_iff.mp (ends.symm.trans taken)
  cases taken
  exact .watch (.noticeEnd probing ended)

theorem noticeCancel_move
    (waiting : (∃ n, p = .checking live n) ∨ (∃ n, p = .pausing live n) ∨ p = .reconciling live)
    (taken : s.stepStart o op p .noticeCancel = some (s', asked)) :
    StartMove o s op p .noticeCancel s' asked := by
  have leaves : s.stepStart o op p .noticeCancel =
      if s.cancelled then (s.setStart op (.failed .cancelled)).quietly else none := by
    rcases waiting with ⟨n, rfl⟩ | ⟨n, rfl⟩ | rfl <;> rfl
  rw [leaves] at taken
  split at taken
  · rename_i cancelled
    cases taken
    exact .watch (.noticeCancel (waiting.imp_right (Or.imp_right .inl)) cancelled)
  · cases taken

theorem healthy_move (taken : s.stepStart o op (.healthy live) .act = some (s', asked)) :
    StartMove o s op (.healthy live) .act s' asked := by
  simp only [stepStart] at taken
  split at taken
  · rename_i wanted
    cases taken
    exact .watch (.reconcile wanted)
  · rename_i unwanted
    cases taken
    exact .watch (.skip (by simpa using unwanted))

theorem healthy_cancel_move
    (taken : s.stepStart o op (.healthy live) .noticeCancel = some (s', asked)) :
    StartMove o s op (.healthy live) .noticeCancel s' asked := by
  simp only [stepStart] at taken
  split at taken
  · rename_i both
    simp only [Bool.and_eq_true] at both
    cases taken
    exact .watch (.noticeCancel (.inr (.inr (.inr ⟨rfl, both.1⟩))) both.2)
  · cases taken

theorem giveUp_move : StartMove o s op (.failed e) .act (s.giveUp op e) [] := by
  unfold giveUp
  split
  · rename_i missing
    exact .miss missing
  · rename_i live held
    exact .take held

theorem taken_move (taken : s.stepStart o op (.taken e live) .act = some (s', asked)) :
    StartMove o s op (.taken e live) .act s' asked := by
  simp only [stepStart] at taken
  cases known : s.report? live.worker with
  | none =>
    rw [terminate_of_alive known] at taken
    cases taken
    exact .terminate known
  | some report =>
    rw [terminate_of_ended (by simp [known])] at taken
    cases taken
    exact .spare (by simp [known])

theorem terminating_move
    (taken : s.stepStart o op (.terminating e live) .noticeEnd = some (s', asked)) :
    StartMove o s op (.terminating e live) .noticeEnd s' asked := by
  obtain ⟨report, ended, taken⟩ := Option.bind_eq_some_iff.mp taken
  cases taken
  exact .ended (by simp [ended])

theorem stepStart_move {a : StartAct} (taken : s.stepStart o op p a = some (s', asked)) :
    StartMove o s op p a s' asked := by
  unfold stepStart at taken
  split at taken
  case h_1 => cases taken; exact .call
  case h_2 pid => cases taken; exact .spawn pid
  case h_3 e => cases taken; exact .refuse e
  case h_4 => cases taken; exact .breakDown
  case h_5 worker => cases taken; exact .register worker
  case h_6 => exact poll_move taken
  case h_7 => exact checkReturned_move taken
  case h_8 => cases taken; exact .watch .again
  case h_9 live n => exact noticeEnd_move (.inl rfl) taken
  case h_10 live n => exact noticeEnd_move (.inr (.inl rfl)) taken
  case h_11 live n => exact noticeEnd_move (.inr (.inr rfl)) taken
  case h_12 live n => exact noticeCancel_move (.inl ⟨n, rfl⟩) taken
  case h_13 live n => exact noticeCancel_move (.inr (.inl ⟨n, rfl⟩)) taken
  case h_14 live => exact noticeCancel_move (.inr (.inr rfl)) taken
  case h_15 => exact healthy_move taken
  case h_16 => exact healthy_cancel_move taken
  case h_17 => cases taken; exact .watch .reconciled
  case h_18 => cases taken; exact promote_move
  case h_19 => cases taken; exact giveUp_move
  case h_20 => exact taken_move taken
  case h_21 => exact terminating_move taken
  case h_22 => cases taken; exact .outlast
  case h_23 => cases taken; exact .abandon
  case h_24 => cases taken; exact .publish
  case h_25 => cases taken

end Start

theorem stepStop_move {op : Nat} {p : StopPoint} {a : StopAct}
    (taken : s.stepStop o op p a = some (s', asked)) : StopMove o s op p a s' asked := by
  unfold stepStop at taken
  split at taken
  case h_1 live =>
    cases known : s.report? live.worker with
    | none =>
      rw [terminate_of_alive known] at taken
      cases taken
      exact .terminate known
    | some report =>
      rw [terminate_of_ended (by simp [known])] at taken
      cases taken
      exact .spare (by simp [known])
  case h_2 live =>
    obtain ⟨report, ended, taken⟩ := Option.bind_eq_some_iff.mp taken
    cases taken
    exact .ended (by simp [ended])
  case h_3 live => cases taken; exact .outlast
  case h_4 => cases taken; exact .clear
  case h_5 => cases taken; exact .publish
  case h_6 => cases taken

theorem stepMonitor_move {i : Nat} {m : Monitor} (taken : s.stepMonitor i m = some (s', asked)) :
    m.done = false ∧ (s.outcome? m.live.worker).isSome ∧ MonitorMove s i m s' ∧ asked = [] := by
  unfold stepMonitor at taken
  split at taken
  · cases taken
  rename_i pending
  obtain ⟨report, ended, taken⟩ := Option.bind_eq_some_iff.mp taken
  refine ⟨by simpa using pending, by simp [ended], ?_⟩
  cases held : s.lifecycle.live with
  | none =>
    simp only [held, Option.any_none, Bool.false_and, Bool.false_eq_true, ↓reduceIte] at taken
    cases taken
    exact ⟨.pass (by simp [held]), rfl⟩
  | some live =>
    simp only [held, Option.any_some, Bool.and_eq_true, beq_iff_eq, decide_eq_true_eq] at taken
    split at taken
    · rename_i current
      cases taken
      exact ⟨.demote held current.1 current.2, rfl⟩
    · rename_i elsewhere
      cases taken
      refine ⟨.pass ?_, rfl⟩
      intro other isLive same ready
      cases held.symm.trans isLive
      exact elsewhere ⟨same, ready⟩

theorem ensure_move {i : Nat} {c : Caller} (here : c.point = .ensuring) :
    CallerMove o s i c .act s.ensure.2 { c with point := s.ensure.1 } [] := by
  unfold ensure
  split
  · rename_i closed
    exact .refuse here closed
  rename_i admitting
  simp only [Bool.not_eq_true] at admitting
  cases phase : s.lifecycle.phase with
  | idle => exact .create here admitting phase
  | starting =>
    cases told : s.lifecycle.startOp with
    | none => simpa [told] using .abort here (.inr (.inl ⟨phase, told⟩))
    | some op => simpa [told] using .join here admitting phase told
  | ready =>
    cases held : s.lifecycle.live with
    | none => simpa [held] using .abort here (.inl ⟨phase, held⟩)
    | some live => simpa [held] using .find here admitting phase held
  | stopping =>
    cases told : s.lifecycle.stopOp with
    | none => simpa [told] using .abort here (.inr (.inr ⟨phase, told⟩))
    | some op => simpa [told] using .queue here admitting phase told

theorem beginStop_of_live {live : Live} (held : s.lifecycle.live = some live) :
    s.beginStop = (some s.stops.length, s.divert live) := by
  simp [beginStop, held, divert]

theorem restart_move {i : Nat} {c : Caller} {generation : Nat}
    (here : c.point = .restarting generation) :
    CallerMove o s i c .act (s.restart generation).2 { c with point := (s.restart generation).1 }
      [] := by
  cases phase : s.lifecycle.phase with
  | idle =>
    by_cases due : generation + 1 = s.lifecycle.nextGeneration ∧ s.lifecycle.restarted < generation
    · simpa [restart, phase, due] using .restartEnded here phase due.1 due.2
    · have stale : s.restart generation = (.ensuring, s) := by
        simp only [restart, phase]
        rw [if_neg (by simpa using due)]
      rw [stale]
      exact .restartStale here (by simp [phase]) (by
        intro _ last
        exact Nat.le_of_not_lt fun fresh => due ⟨last, fresh⟩)
  | ready =>
    cases held : s.lifecycle.live with
    | none =>
      simpa [restart, phase, held] using
        .restartStale here (by simp [held]) (by simp [phase])
    | some live =>
      by_cases same : live.generation = generation
      · subst same
        have counted : (s.count live.generation).lifecycle.live = some live := held
        simpa [restart, phase, held, beginStop_of_live counted, count] using
          .restart here phase held
      · simpa [restart, phase, held, same] using
          .restartStale here (by simp [held, same]) (by simp [phase])
  | starting | stopping =>
    simpa [restart, phase] using .restartStale here (by simp [phase]) (by simp [phase])

theorem halt_move {i : Nat} {c : Caller} (here : c.point = .stopping) :
    CallerMove o s i c .act s.halt.2 { c with point := s.halt.1 } [] := by
  cases phase : s.lifecycle.phase with
  | idle => simpa [halt, phase] using .haltIdle here phase
  | starting =>
    cases told : s.lifecycle.startOp with
    | none => simpa [halt, phase, told] using .haltLost here (.inl ⟨phase, told⟩)
    | some op => simpa [halt, phase, told] using .haltStart here phase told
  | ready =>
    cases held : s.lifecycle.live with
    | none =>
      have empty : s.halt =
          (finished, { s with lifecycle := { s.lifecycle with phase := .idle } }) := by
        simp [halt, phase, beginStop, held]
      rw [empty]
      exact .haltEmpty here phase held
    | some live => simpa [halt, phase, beginStop_of_live held] using .halt here phase held
  | stopping =>
    cases told : s.lifecycle.stopOp with
    | none => simpa [halt, phase, told] using .haltLost here (.inr ⟨phase, told⟩)
    | some op => simpa [halt, phase, told] using .haltStop here phase told

def CallerMoved (o : Options) (s : State) (i : Nat) (c : Caller) (a : CallerAct) (s' : State)
    (asked : List Event) : Prop :=
  ∃ s₁ c', s' = s₁.setCaller i c' ∧ CallerMove o s i c a s₁ c' asked

section Caller

variable {i op : Nat} {c : Caller}

theorem drop_move (taken : s.stepCaller o i c .drop = some (s', asked)) :
    CallerMoved o s i c .drop s' asked := by
  simp only [stepCaller] at taken
  split at taken
  · rename_i waiting
    cases taken
    exact ⟨_, _, rfl, .drop waiting⟩
  · cases taken

theorem callReturned_move {r : Except Bridge.Error Json}
    (taken : s.stepCaller o i c (.callReturned r) = some (s', asked)) :
    CallerMoved o s i c (.callReturned r) s' asked := by
  simp only [stepCaller] at taken
  split at taken
  · rename_i generation here
    cases taken
    exact ⟨_, _, rfl, .answer r here⟩
  · cases taken

theorem told_move (here : c.point = .awaitingStart op)
    (taken : s.stepCaller o i c .act = some (s', asked)) : CallerMoved o s i c .act s' asked := by
  simp only [stepCaller, here] at taken
  obtain ⟨r, told, taken⟩ := Option.bind_eq_some_iff.mp taken
  cases r with
  | ok _ => cases taken; exact ⟨_, _, rfl, .started here told⟩
  | error e => cases taken; exact ⟨_, _, rfl, .startFailed here told⟩

theorem stopped_move (here : c.point = .awaitingStop op ∨ c.point = .awaitingRestart op)
    (taken : s.stepCaller o i c .act = some (s', asked)) : CallerMoved o s i c .act s' asked := by
  have goes : s.stepCaller o i c .act =
      if s.stopIsDone op then (s.setCaller i { c with point := .ensuring }).quietly else none := by
    rcases here with here | here <;> simp only [stepCaller, here]
  rw [goes] at taken
  split at taken
  · rename_i final
    cases taken
    exact ⟨_, _, rfl, .stopped here final⟩
  · cases taken

theorem ensured_move {generation : Nat} (here : c.point = .ensured generation)
    (taken : s.stepCaller o i c .act = some (s', asked)) : CallerMoved o s i c .act s' asked := by
  simp only [stepCaller, here] at taken
  split at taken
  · rename_i endpoint payload wanted
    cases taken
    exact ⟨_, _, rfl, .call here wanted⟩
  · rename_i other
    cases taken
    exact ⟨_, _, rfl, .finish here other⟩

theorem outwaitedStart_move (here : c.point = .outwaitingStart op)
    (taken : s.stepCaller o i c .act = some (s', asked)) : CallerMoved o s i c .act s' asked := by
  simp only [stepCaller, here] at taken
  split at taken
  · rename_i told
    cases taken
    exact ⟨_, _, rfl, .outwaitedStart here told⟩
  · cases taken

theorem outwaitedStop_move (here : c.point = .outwaitingStop op)
    (taken : s.stepCaller o i c .act = some (s', asked)) : CallerMoved o s i c .act s' asked := by
  simp only [stepCaller, here] at taken
  split at taken
  · rename_i final
    cases taken
    exact ⟨_, _, rfl, .outwaitedStop here final⟩
  · cases taken

theorem callerAct_move (taken : s.stepCaller o i c .act = some (s', asked)) :
    CallerMoved o s i c .act s' asked := by
  cases here : c.point with
  | awaitingStart op => exact told_move here taken
  | awaitingStop op => exact stopped_move (.inl here) taken
  | ensured generation => exact ensured_move here taken
  | awaitingRestart op => exact stopped_move (.inr here) taken
  | outwaitingStart op => exact outwaitedStart_move here taken
  | outwaitingStop op => exact outwaitedStop_move here taken
  | ensuring =>
    simp only [stepCaller, here] at taken
    cases taken
    exact ⟨_, _, rfl, ensure_move here⟩
  | restarting generation =>
    simp only [stepCaller, here] at taken
    cases taken
    exact ⟨_, _, rfl, restart_move here⟩
  | announcing =>
    simp only [stepCaller, here] at taken
    cases taken
    exact ⟨_, _, rfl, .announce here⟩
  | cancelling =>
    simp only [stepCaller, here] at taken
    cases taken
    exact ⟨_, _, rfl, .cancel here⟩
  | stopping =>
    simp only [stepCaller, here] at taken
    cases taken
    exact ⟨_, _, rfl, halt_move here⟩
  | calling | returned | dropped => simp [stepCaller, here] at taken

theorem stepCaller_move {a : CallerAct} (taken : s.stepCaller o i c a = some (s', asked)) :
    CallerMoved o s i c a s' asked := by
  cases a with
  | act => exact callerAct_move taken
  | callReturned r => exact callReturned_move taken
  | drop => exact drop_move taken

end Caller

theorem stepWorker_move {w : Nat} {c : Child.Channel} {a : WorkerAct}
    (taken : s.stepWorker w c a = some (s', asked)) :
    c.signalsOpen = true ∧ ∃ c', s' = s.setWorker w c' ∧ WorkerMove w c c' asked := by
  unfold stepWorker at taken
  split at taken
  · split at taken
    · rename_i held
      obtain ⟨⟨mode, c'⟩, next, taken⟩ := Option.map_eq_some_iff.mp taken
      cases taken
      exact ⟨held, c', rfl, .receive next⟩
    · cases taken
  · rename_i exit
    split at taken
    · rename_i held
      cases taken
      exact ⟨held, _, rfl, .report exit⟩
    · cases taken
  · split at taken
    · rename_i held
      cases taken
      exact ⟨held, _, rfl, .vanish⟩
    · cases taken

theorem step_move {l : Label} (taken : s.step o l = some (s', asked)) : Move o s l s' asked := by
  cases l with
  | enter job => cases taken; exact .enter job
  | start op a =>
    obtain ⟨p, here, taken⟩ := Option.bind_eq_some_iff.mp taken
    exact .start here (stepStart_move taken)
  | stop op a =>
    obtain ⟨p, here, taken⟩ := Option.bind_eq_some_iff.mp taken
    exact .stop here (stepStop_move taken)
  | monitor i =>
    obtain ⟨m, here, taken⟩ := Option.bind_eq_some_iff.mp taken
    obtain ⟨pending, ended, move, rfl⟩ := stepMonitor_move taken
    exact .monitor here pending ended move
  | caller i a =>
    obtain ⟨c, here, taken⟩ := Option.bind_eq_some_iff.mp taken
    obtain ⟨s₁, c', rfl, move⟩ := stepCaller_move taken
    exact .caller here move
  | worker w a =>
    obtain ⟨c, here, taken⟩ := Option.bind_eq_some_iff.mp taken
    obtain ⟨held, c', rfl, move⟩ := stepWorker_move taken
    exact .worker here held move

end State
end MissionWorker.Supervisor
