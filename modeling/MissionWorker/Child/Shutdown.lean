import MissionWorker.Child.Keeper

namespace MissionWorker.Child

/-- What a process does: when it ends by itself, and how long after a polite request or a kill it is
gone, if ever. -/
structure Course where
  alone : Option (Nat × Exit) := none
  onRequest : Option (Nat × Exit) := some (0, .signal 15)
  onKill : Option Nat := some 0

structure Signals where
  requested : Option Nat := none
  killed : Option Nat := none
  deriving DecidableEq

def earlier : Option (Nat × Exit) → Option (Nat × Exit) → Option (Nat × Exit)
  | some (t, e), some (u, f) => if t ≤ u then some (t, e) else some (u, f)
  | none, f => f
  | e, none => e

namespace Course

def ending? (c : Course) (s : Signals) : Option (Nat × Exit) :=
  let onRequest := s.requested.bind fun time => c.onRequest.map fun (delay, exit) => (time + delay, exit)
  let onKill := s.killed.bind fun time => c.onKill.map fun delay => (time + delay, .signal 9)
  earlier (earlier c.alone onRequest) onKill

def endedBy? (c : Course) (s : Signals) (time : Nat) : Option (Nat × Exit) :=
  (c.ending? s).filter (·.1 ≤ time)

end Course

/-- What the system may fail to do: to deliver the polite request, to wait, to kill, to wait after
that. -/
structure Trouble where
  request : Bool := false
  wait : Bool := false
  kill : Bool := false
  lastWait : Bool := false

namespace Keeper

def signals (k : Keeper) : Signals where
  requested := (k.deeds.find? (·.2 == .request true)).map (·.1)
  killed := (k.deeds.find? (·.2 == .kill true)).map (·.1)

def catchUp (k : Keeper) (c : Course) : Keeper :=
  match c.endedBy? k.signals k.now with
  | some (_, exit) => k.take (.exits exit)
  | none => k

def await (k : Keeper) (c : Course) (failing : Bool) (limit : Nat) : Keeper :=
  if failing && !k.collected then k.take .failed
  else if k.ended.isSome then k.take .returned
  else
    match c.endedBy? k.signals limit with
    | some (time, exit) => ((k.take (.pass (time - k.now))).take (.exits exit)).take .returned
    | none => (k.take (.pass (limit - k.now))).take .timeUp

def killNow (k : Keeper) (c : Course) (t : Trouble) : Keeper :=
  let k := k.take (.kill (!t.kill))
  match k.point with
  | .reaping limit => k.await c t.lastWait limit
  | _ => (k.catchUp c).take .look

def carryOut (k : Keeper) (c : Course) (t : Trouble) : Keeper :=
  let k := k.take (.begin (!t.request))
  match k.point with
  | .lingering limit =>
    let k := k.await c t.wait limit
    match k.point with
    | .killing => k.killNow c t
    | _ => k
  | _ => k.killNow c t

end Keeper

def shutdown (c : Course) (t : Trouble) (collected : Bool) (s : Signals) (now : Nat)
    (mode : Termination) : Keeper :=
  let k : Keeper := .handed (c.endedBy? s now) collected now mode
  -- What the process was sent before takes effect as if it did so by itself.
  k.carryOut { c with alone := c.ending? s } t

def keep (pid : Option Nat) (c : Course) (t : Trouble) (asked : Option (Nat × Termination)) : Keeper :=
  let k : Keeper := .launched pid
  let alone := match asked with
    | some (now, _) => c.endedBy? {} now
    | none => c.ending? {}
  match alone, asked with
  | some (time, exit), _ =>
    (((k.take (.pass time)).take (.exits exit)).take .returned).take .report
  | none, some (now, mode) =>
    ((((k.take (.pass now)).take (.terminate mode)).take .receive).carryOut c t).take .report
  | none, none => k

def watch (pid : Option Nat) (c : Course) (t : Trouble) (asked : Option (Nat × Termination)) :
    Option (Nat × Report) :=
  (keep pid c t asked).told?

end MissionWorker.Child
