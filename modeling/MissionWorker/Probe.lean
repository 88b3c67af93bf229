namespace MissionWorker

structure Probe where
  maxAttempts : Nat
  interval : Nat

namespace Probe

inductive Error where
  | timeout (attempts : Nat)
  | cancelled
  deriving DecidableEq

def neverHealthy (attempts : Nat) : String :=
  "Worker did not become healthy after " ++ toString attempts ++ " attempts"

def Error.display : Error → String
  | .timeout attempts => neverHealthy attempts
  | .cancelled => "Readiness probe cancelled"

def ofAttempts (attempts interval : Nat) : Probe := { maxAttempts := max attempts 1, interval }

structure Check where
  after : Option Nat
  healthy : Bool

inductive Outcome where
  | ready (attempt : Nat)
  | failed (e : Error)
  | waiting
  deriving DecidableEq

structure End where
  outcome : Outcome
  time : Nat
  checks : Nat
  deriving DecidableEq

/-- The one who may cancel a probe: when it signals that, and when it is gone. The signal stays when
its sender is gone. -/
structure Canceller where
  signal : Option Nat := none
  gone : Option Nat := none

inductive Canceller.Wait where
  | signalled
  | deserted
  deriving DecidableEq

namespace Canceller

def waits (k : Canceller) : Option (Nat × Wait) :=
  match k.signal, k.gone with
  | some c, some g => if c ≤ g then some (c, .signalled) else some (g, .deserted)
  | some c, none => some (c, .signalled)
  | none, some g => some (g, .deserted)
  | none, none => none

/-- When the cancellation comes. One who is deserted goes on waiting, forever. -/
def comes? (k : Canceller) : Option Nat :=
  match k.waits with
  | some (c, .signalled) => some c
  | _ => none

instance : Coe (Option Nat) Canceller where
  coe signal := { signal }

end Canceller

def cancelledBy (cancel : Option Nat) (time : Nat) : Bool :=
  match cancel with
  | some c => c ≤ time
  | none => false

def cancelledBefore (cancel : Option Nat) (time : Nat) : Bool :=
  match cancel with
  | some c => c < time
  | none => false

/-- The probe from its attempt number `attempt` on, which may begin at `time`; `later` more may
follow it. -/
def attempts (interval : Nat) (check : Nat → Check) (cancel : Option Nat) :
    (later attempt time : Nat) → End
  | later, attempt, time =>
    if cancelledBy cancel time then ⟨.failed .cancelled, time, attempt⟩
    else
      match (check attempt).after with
      | none =>
        match cancel with
        | some c => ⟨.failed .cancelled, c, attempt + 1⟩
        | none => ⟨.waiting, time, attempt + 1⟩
      | some d =>
        if cancelledBefore cancel (time + d) then
          ⟨.failed .cancelled, cancel.getD 0, attempt + 1⟩
        else if (check attempt).healthy then ⟨.ready (attempt + 1), time + d, attempt + 1⟩
        else
          match later with
          | 0 => ⟨.failed (.timeout (attempt + 1)), time + d, attempt + 1⟩
          | later + 1 =>
            if cancelledBy cancel (time + d + interval) then
              ⟨.failed .cancelled, max (time + d) (cancel.getD 0), attempt + 1⟩
            else attempts interval check cancel later (attempt + 1) (time + d + interval)

/-- The probe, begun at time zero: how it ends, when, and after how many checks. A check that comes
back at the moment of the cancellation still counts, and what is signalled at time zero is signalled
before the probe begins. -/
def run (p : Probe) (check : Nat → Check) (cancel : Canceller) : End :=
  attempts p.interval check cancel.comes? (p.maxAttempts - 1) 0 0

end Probe
end MissionWorker
