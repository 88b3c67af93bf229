import MissionWorker.Child.Handle
import MissionWorker.Config.Supervisor
import MissionWorker.Supervisor.Error

namespace MissionWorker.Supervisor

inductive Phase where
  | idle
  | starting
  | ready
  | stopping
  deriving DecidableEq, Inhabited

def Phase.name : Phase → String
  | .idle => "idle"
  | .starting => "starting"
  | .ready => "ready"
  | .stopping => "stopping"

structure Live where
  generation : Nat
  worker : Nat
  deriving DecidableEq, Inhabited

/-- What all that goes on shares. -/
structure Lifecycle where
  phase : Phase := .idle
  live : Option Live := none
  startOp : Option Nat := none
  stopOp : Option Nat := none
  nextGeneration : Nat := 1
  /-- The last generation that was counted as restarted. -/
  restarted : Nat := 0
  shuttingDown : Bool := false
  deriving Inhabited

structure Options where
  probe : Probe
  recovery : Recovery.Policy
  stopTimeout : Nat
  reconcile : Bool

def Options.ofConfig (c : Config.Supervisor) : Options where
  probe := .ofAttempts c.probeAttempts.toNat c.probeInterval.toNat
  recovery := { maxRestarts := c.maxRestarts.toNat }
  stopTimeout := c.stopTimeout.toNat
  reconcile := c.reconcileOnStart

/-- Where a start operation is. `launched` is not yet known to the others, and `verified` lacks
nothing but the promotion. An operation that has `failed` has its worker taken away, is `released`
once that is given up, and moves the lifecycle on before it is `resolved`; those who wait are told
when it is `published`. One that has `died` has no outcome. -/
inductive StartPoint where
  | created
  | launching
  | launched (worker : Nat)
  | polling (live : Live) (attempt : Nat)
  | checking (live : Live) (attempt : Nat)
  | pausing (live : Live) (attempt : Nat)
  | healthy (live : Live)
  | reconciling (live : Live)
  | verified (live : Live)
  | failed (e : StartupError)
  | taken (e : StartupError) (live : Live)
  | terminating (e : StartupError) (live : Live)
  | released (e : StartupError)
  | resolved (outcome : Except StartupError Unit)
  | published (outcome : Except StartupError Unit)
  | died

inductive StopPoint where
  | created (live : Live)
  | terminating (live : Live)
  | released
  | cleared
  | done
  deriving DecidableEq

structure Monitor where
  live : Live
  done : Bool := false
  deriving DecidableEq

inductive Job where
  | start
  | stop
  | shutdown
  | request (endpoint : String) (payload : Option Json)

abbrev Result := Except RequestError Json

/-- Where a caller is. `ensured` has found a worker of that generation ready, and `restarting` is
about to ask for the restart of one; nobody waits any more for one that is `dropped`. -/
inductive CallerPoint where
  | ensuring
  | awaitingStart (op : Nat)
  | awaitingStop (op : Nat)
  | ensured (generation : Nat)
  | calling (generation : Nat)
  | restarting (generation : Nat)
  | awaitingRestart (op : Nat)
  | announcing
  | cancelling
  | stopping
  | outwaitingStart (op : Nat)
  | outwaitingStop (op : Nat)
  | returned (r : Result)
  | dropped

structure Caller where
  job : Job
  point : CallerPoint
  used : Nat := 0

/-- Everything that goes on at once shares one lifecycle. A part is at a point where any other may
overtake it; between two points it acts alone. Parts are known by their place in the lists of all that
ever were. -/
structure State where
  lifecycle : Lifecycle := {}
  cancelled : Bool := false
  spawns : Nat := 0
  restarts : Nat := 0
  workers : List Child.Channel := []
  starts : List StartPoint := []
  stops : List StopPoint := []
  monitors : List Monitor := []
  callers : List Caller := []

structure Stats where
  phase : Phase
  pid : Option Nat
  spawns : Nat
  restarts : Nat

def Stats.toJson (s : Stats) : Json :=
  .object [
    ("pid", .orNull .nat s.pid),
    ("restarts", .nat s.restarts),
    ("spawns", .nat s.spawns),
    ("state", .text s.phase.name)]

/-- What a step asks of the world around the supervisor, or tells it: that a worker has outlasted the
stop timeout, or has received what it was asked. -/
inductive Event where
  | launch (op : Nat)
  | check (op : Nat)
  | pause (op : Nat)
  | reconcile (op : Nat)
  | call (caller : Nat) (endpoint : String) (payload : Option Json)
  | terminate (worker : Nat) (mode : Child.Termination)
  | awaitEnd (op : Nat)
  | awaitStop (op : Nat)
  | outlasted (worker : Nat)
  | received (worker : Nat) (mode : Child.Termination)

namespace State

def setStart (s : State) (op : Nat) (p : StartPoint) : State := { s with starts := s.starts.set op p }

def setStop (s : State) (op : Nat) (p : StopPoint) : State := { s with stops := s.stops.set op p }

def setCaller (s : State) (i : Nat) (c : Caller) : State := { s with callers := s.callers.set i c }

def onWorker (s : State) (w : Nat) (f : Child.Channel → Child.Channel) : State :=
  { s with workers := s.workers.modify w f }

def pid? (s : State) (w : Nat) : Option Nat := s.workers[w]?.bind (·.pid)

def stats (s : State) : Stats where
  phase := s.lifecycle.phase
  pid := s.lifecycle.live.bind fun live => s.pid? live.worker
  spawns := s.spawns
  restarts := s.restarts

def outcome? (s : State) (w : Nat) : Option Child.Report :=
  s.workers[w]?.bind fun c => c.outcome? c.pid

def report? (s : State) (w : Nat) : Option Child.Report := s.workers[w]?.bind (·.report)

def release (s : State) (live : Live) : State := s.onWorker live.worker Child.Channel.dropHandle

def releaseAny (s : State) (live : Option Live) : State :=
  match live with
  | some l => s.release l
  | none => s

/-- Asks a worker to end, unless it is known to have ended; then its handle is let go. What it was
asked comes with the state. -/
def terminate (s : State) (o : Options) (live : Live) : Option Event × State :=
  if (s.report? live.worker).isSome then (none, s.release live)
  else
    let mode : Child.Termination := .graceful o.stopTimeout
    (some (.terminate live.worker mode), s.onWorker live.worker (Child.Channel.terminate mode))

/-- Takes the worker away to stop it, and says which stop operation does that. -/
def beginStop (s : State) : Option Nat × State :=
  match s.lifecycle.live with
  | none => (none, { s with lifecycle := { s.lifecycle with phase := .idle } })
  | some live =>
    let op := s.stops.length
    (some op, { s with
      lifecycle := { s.lifecycle with live := none, phase := .stopping, stopOp := some op }
      stops := s.stops ++ [.created live] })

end State
end MissionWorker.Supervisor
