import MissionWorker.Supervisor.State

namespace MissionWorker.Supervisor

inductive StartAct where
  | act
  | launchReturned (r : Except Launch.Error (Option Nat))
  | breakDown
  | checkReturned (healthy : Bool)
  | pauseOver
  | reconcileReturned (r : Except Bridge.Error Json)
  | noticeEnd
  | noticeCancel
  | timeUp

inductive StopAct where
  | act
  | noticeEnd
  | timeUp

inductive CallerAct where
  | act
  | callReturned (r : Except Bridge.Error Json)
  | drop

inductive WorkerAct where
  | receive
  | report (exit : Child.Exit)
  | vanish

/-- Who takes a step, and how. -/
inductive Label where
  | enter (job : Job)
  | start (op : Nat) (a : StartAct)
  | stop (op : Nat) (a : StopAct)
  | monitor (i : Nat)
  | caller (i : Nat) (a : CallerAct)
  | worker (w : Nat) (a : WorkerAct)

abbrev Outcome := Option (State × List Event)

namespace State

def quietly (s : State) : Outcome := some (s, [])

def spawned (s : State) (op : Nat) (pid : Option Nat) : State :=
  { s with workers := s.workers ++ [({ pid } : Child.Channel)], spawns := s.spawns + 1 }.setStart op
    (.launched s.workers.length)

def register (s : State) (op worker : Nat) : State :=
  let live : Live := { generation := s.lifecycle.nextGeneration, worker }
  let s := s.releaseAny s.lifecycle.live
  { s with
    lifecycle := { s.lifecycle with
      live := some live, nextGeneration := s.lifecycle.nextGeneration + 1 }
    monitors := s.monitors ++ [({ live } : Monitor)] }.setStart op (.polling live 1)

/-- Calls a worker ready, unless the supervisor shuts down or the worker has ended. -/
def promote (s : State) (op : Nat) (live : Live) : State :=
  if s.lifecycle.shuttingDown then s.setStart op (.failed .cancelled)
  else
    let ended : Option Child.Report :=
      match s.lifecycle.live with
      | some l => if l.generation = live.generation then s.report? l.worker
          else some { pid := none, exit := .unknown }
      | none => some { pid := none, exit := .unknown }
    match ended with
    | some report => s.setStart op (.failed (.exited report))
    | none =>
      { s with lifecycle := { s.lifecycle with phase := .ready, startOp := none } }.setStart op
        (.resolved (.ok ()))

def giveUp (s : State) (op : Nat) (e : StartupError) : State :=
  match s.lifecycle.live with
  | none => s.setStart op (.released e)
  | some live =>
    { s with lifecycle := { s.lifecycle with live := none } }.setStart op (.taken e live)

def stepStart (s : State) (o : Options) (op : Nat) : StartPoint → StartAct → Outcome
  | .created, .act => some (s.setStart op .launching, [.launch op])
  | .launching, .launchReturned (.ok pid) => (s.spawned op pid).quietly
  | .launching, .launchReturned (.error e) => (s.setStart op (.failed (.launch e))).quietly
  | .launching, .breakDown => (s.setStart op .died).quietly
  | .launched worker, .act => (s.register op worker).quietly
  | .polling live n, .act =>
    if s.cancelled then (s.setStart op (.failed .cancelled)).quietly
    else some (s.setStart op (.checking live n), [.check op])
  | .checking live n, .checkReturned healthy =>
    if healthy then (s.setStart op (.healthy live)).quietly
    else if n < o.probe.maxAttempts then some (s.setStart op (.pausing live n), [.pause op])
    else (s.setStart op (.failed (.timeout o.probe.maxAttempts))).quietly
  | .pausing live n, .pauseOver => (s.setStart op (.polling live (n + 1))).quietly
  | .polling live _, .noticeEnd | .checking live _, .noticeEnd | .pausing live _, .noticeEnd =>
    (s.outcome? live.worker).bind fun report => (s.setStart op (.failed (.exited report))).quietly
  | .checking _ _, .noticeCancel | .pausing _ _, .noticeCancel | .reconciling _, .noticeCancel =>
    if s.cancelled then (s.setStart op (.failed .cancelled)).quietly else none
  | .healthy live, .act =>
    if o.reconcile then some (s.setStart op (.reconciling live), [.reconcile op])
    else (s.setStart op (.verified live)).quietly
  | .healthy _, .noticeCancel =>
    if o.reconcile && s.cancelled then (s.setStart op (.failed .cancelled)).quietly else none
  -- Whatever the worker answers, it is as good as it was found healthy.
  | .reconciling live, .reconcileReturned _ => (s.setStart op (.verified live)).quietly
  | .verified live, .act => (s.promote op live).quietly
  | .failed e, .act => (s.giveUp op e).quietly
  | .taken e live, .act =>
    match s.terminate o live with
    | (some asked, s) => some (s.setStart op (.terminating e live), [asked, .awaitEnd op])
    | (none, s) => (s.setStart op (.released e)).quietly
  | .terminating e live, .noticeEnd =>
    (s.outcome? live.worker).bind fun _ => ((s.release live).setStart op (.released e)).quietly
  | .terminating e live, .timeUp =>
    some ((s.release live).setStart op (.released e), [.outlasted live.worker])
  | .released e, .act =>
    ({ s with lifecycle := { s.lifecycle with phase := .idle, startOp := none } }.setStart op
      (.resolved (.error e))).quietly
  | .resolved r, .act => (s.setStart op (.published r)).quietly
  | _, _ => none

def stepStop (s : State) (o : Options) (op : Nat) : StopPoint → StopAct → Outcome
  | .created live, .act =>
    match s.terminate o live with
    | (some asked, s) => some (s.setStop op (.terminating live), [asked, .awaitStop op])
    | (none, s) => (s.setStop op .released).quietly
  | .terminating live, .noticeEnd =>
    (s.outcome? live.worker).bind fun _ => ((s.release live).setStop op .released).quietly
  | .terminating live, .timeUp =>
    some ((s.release live).setStop op .released, [.outlasted live.worker])
  | .released, .act =>
    ({ s with lifecycle := { s.lifecycle with phase := .idle, stopOp := none } }.setStop op
      .cleared).quietly
  | .cleared, .act => (s.setStop op .done).quietly
  | _, _ => none

/-- A monitor sees its worker's end. The supervisor is idle again, if that was the ready worker. -/
def stepMonitor (s : State) (i : Nat) (m : Monitor) : Outcome :=
  if m.done then none
  else
    (s.outcome? m.live.worker).bind fun _ =>
      let s := { s with monitors := s.monitors.set i { m with done := true } }
      let current := s.lifecycle.live.any (·.generation == m.live.generation)
      if current && s.lifecycle.phase = .ready then
        { s.releaseAny s.lifecycle.live with
          lifecycle := { s.lifecycle with live := none, phase := .idle } }.quietly
      else s.quietly

/-- What a caller does who needs a ready worker: goes on with it, waits for what is under way, or
has a start operation created. -/
def ensure (s : State) : CallerPoint × State :=
  if s.lifecycle.shuttingDown then (.returned (.error (.startup .shuttingDown)), s)
  else
    let aborted : CallerPoint := .returned (.error (.startup .aborted))
    match s.lifecycle.phase with
    | .ready => (s.lifecycle.live.elim aborted fun live => .ensured live.generation, s)
    | .starting => (s.lifecycle.startOp.elim aborted .awaitingStart, s)
    | .stopping => (s.lifecycle.stopOp.elim aborted .awaitingStop, s)
    | .idle =>
      let op := s.starts.length
      (.awaitingStart op, { s with
        lifecycle := { s.lifecycle with phase := .starting, startOp := some op }
        starts := s.starts ++ [.created] })

def count (s : State) (generation : Nat) : State :=
  { s with
    lifecycle := { s.lifecycle with restarted := generation }
    restarts := s.restarts + 1 }

/-- What a caller does whose call failed under a generation: has the worker stopped, if it is still
that one, or lets the next start count as the restart, if that worker was the last and has ended. -/
def restart (s : State) (generation : Nat) : CallerPoint × State :=
  match s.lifecycle.phase with
  | .ready =>
    if s.lifecycle.live.any (·.generation == generation) then
      let (op, s) := (s.count generation).beginStop
      (op.elim .ensuring .awaitingRestart, s)
    else (.ensuring, s)
  | .idle =>
    if generation + 1 = s.lifecycle.nextGeneration && s.lifecycle.restarted < generation then
      (.ensuring, s.count generation)
    else (.ensuring, s)
  | _ => (.ensuring, s)

def finished : CallerPoint := .returned (.ok .null)

def halt (s : State) : CallerPoint × State :=
  match s.lifecycle.phase with
  | .idle => (finished, s)
  | .starting => (s.lifecycle.startOp.elim finished .outwaitingStart, s)
  | .stopping => (s.lifecycle.stopOp.elim finished .outwaitingStop, s)
  | .ready =>
    let (op, s) := s.beginStop
    (op.elim finished .outwaitingStop, s)

/-- What one who waits for a start operation is told, once there is something to tell. -/
def startOutcome? (s : State) (op : Nat) : Option (Except StartupError Unit) :=
  match s.starts[op]? with
  | some (.published r) => some r
  | some .died => some (.error .aborted)
  | _ => none

def stopIsDone (s : State) (op : Nat) : Bool := s.stops[op]? == some .done

def receiveAnswer (o : Options) (c : Caller) (generation : Nat) : Except Bridge.Error Json → Caller
  | .ok v => { c with point := .returned (.ok v) }
  | .error e =>
    match o.recovery.decide e.recovery c.used with
    | .surface => { c with point := .returned (.error (.ofCall e)) }
    | .restart => { c with point := .restarting generation, used := c.used + 1 }

def isWaiting : CallerPoint → Bool
  | .ensured _ | .cancelling | .returned _ | .dropped => false
  | _ => true

def stepCaller (s : State) (o : Options) (i : Nat) (c : Caller) : CallerAct → Outcome
  | .drop => if isWaiting c.point then (s.setCaller i { c with point := .dropped }).quietly else none
  | .callReturned r =>
    match c.point with
    | .calling generation => (s.setCaller i (receiveAnswer o c generation r)).quietly
    | _ => none
  | .act =>
    let goOn (next : CallerPoint × State) : Outcome :=
      (next.2.setCaller i { c with point := next.1 }).quietly
    match c.point with
    | .ensuring => goOn s.ensure
    | .awaitingStart op =>
      (s.startOutcome? op).bind fun
        | .ok () => goOn (.ensuring, s)
        | .error e => goOn (.returned (.error (.startup e)), s)
    | .awaitingStop op => if s.stopIsDone op then goOn (.ensuring, s) else none
    | .ensured generation =>
      match c.job with
      | .request endpoint payload =>
        some (s.setCaller i { c with point := .calling generation }, [.call i endpoint payload])
      | _ => goOn (finished, s)
    | .restarting generation => goOn (s.restart generation)
    | .awaitingRestart op => if s.stopIsDone op then goOn (.ensuring, s) else none
    | .announcing =>
      goOn (.cancelling, { s with lifecycle := { s.lifecycle with shuttingDown := true } })
    | .cancelling => goOn (.stopping, { s with cancelled := true })
    | .stopping => goOn s.halt
    | .outwaitingStart op => if (s.startOutcome? op).isSome then goOn (.stopping, s) else none
    | .outwaitingStop op => if s.stopIsDone op then goOn (finished, s) else none
    | .calling _ | .returned _ | .dropped => none

def stepWorker (s : State) (w : Nat) (c : Child.Channel) : WorkerAct → Outcome
  | .receive =>
    if c.signalsOpen then
      c.receive?.map fun (mode, c) => ({ s with workers := s.workers.set w c }, [.received w mode])
    else none
  | .report exit =>
    if c.signalsOpen then
      { s with workers := s.workers.set w (c.reportExit { pid := c.pid, exit }) }.quietly
    else none
  | .vanish =>
    if c.signalsOpen then { s with workers := s.workers.set w c.dropSignals }.quietly else none

def entry : Job → CallerPoint
  | .start | .request _ _ => .ensuring
  | .stop => .stopping
  | .shutdown => .announcing

/-- What one part does between two points; `none` where it is at no such point. -/
def step (s : State) (o : Options) : Label → Outcome
  | .enter job => { s with callers := s.callers ++ [({ job, point := entry job } : Caller)] }.quietly
  | .start op a => s.starts[op]?.bind fun p => s.stepStart o op p a
  | .stop op a => s.stops[op]?.bind fun p => s.stepStop o op p a
  | .monitor i => s.monitors[i]?.bind fun m => s.stepMonitor i m
  | .caller i a => s.callers[i]?.bind fun c => s.stepCaller o i c a
  | .worker w a => s.workers[w]?.bind fun c => s.stepWorker w c a

def run (s : State) (o : Options) : List Label → Outcome
  | [] => some (s, [])
  | l :: rest => do
    let (s, asked) ← s.step o l
    let (s, more) ← s.run o rest
    return (s, asked ++ more)

end State

/-- What can come of a new supervisor, whatever happens around it. -/
def Reachable (o : Options) (s : State) : Prop := ∃ labels asked, ({} : State).run o labels = some (s, asked)

end MissionWorker.Supervisor
