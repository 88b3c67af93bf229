import MissionWorker.Child.Exit

namespace MissionWorker.Child

inductive Termination where
  | graceful (killAfter : Nat)
  | force
  deriving DecidableEq, Inhabited

/-- A process as its two ends see it. The owner's handle asks the process to end and sees its end; the
process's side receives what is asked and reports the end, which uses its signals up. -/
structure Channel where
  pid : Option Nat
  report : Option Report := none
  requests : List Termination := []
  handleOpen : Bool := true
  signalsOpen : Bool := true
  deriving DecidableEq, Inhabited

namespace Channel

def hasExited (c : Channel) : Bool := c.report.isSome

def terminate (mode : Termination) (c : Channel) : Channel :=
  if c.signalsOpen then { c with requests := c.requests ++ [mode] } else c

/-- What one who waits for the end is told, `none` while there is nothing to tell. Signals that go
without a report leave the end unknown; the one who waits says of which process. -/
def outcome? (pid : Option Nat) (c : Channel) : Option Report :=
  match c.report with
  | some report => some report
  | none => if c.signalsOpen then none else some { pid, exit := .unknown }

/-- The next thing asked of the process, and the channel after it; `none` while nothing is asked.
A handle that is gone asks for force. -/
def receive? (c : Channel) : Option (Termination × Channel) :=
  match c.requests with
  | mode :: rest => some (mode, { c with requests := rest })
  | [] => if c.handleOpen then none else some (.force, c)

def reportExit (report : Report) (c : Channel) : Channel :=
  { c with report := some report, signalsOpen := false }

def dropSignals (c : Channel) : Channel := { c with signalsOpen := false }

def dropHandle (c : Channel) : Channel := { c with handleOpen := false }

inductive Act where
  | terminate (mode : Termination)
  | wait
  | receive
  | report (exit : Exit)
  | dropHandle
  | dropSignals
  | watch (pid : Option Nat)
  | look

inductive Answer where
  | sent
  | pending
  | ended (report : Report)
  | asked (mode : Termination)
  | reported
  | dropped
  | done
  | gone
  deriving DecidableEq

def answer : Option Report → Answer
  | some report => .ended report
  | none => .pending

def act (c : Channel) : Act → Answer × Channel
  | .terminate mode => if c.handleOpen then (.sent, c.terminate mode) else (.gone, c)
  | .wait => (if c.handleOpen then answer (c.outcome? c.pid) else .gone, c)
  | .receive =>
    if c.signalsOpen then
      match c.receive? with
      | some (mode, c) => (.asked mode, c)
      | none => (.pending, c)
    else (.gone, c)
  | .report exit =>
    if c.signalsOpen then (.reported, c.reportExit { pid := c.pid, exit }) else (.gone, c)
  | .dropHandle => (.dropped, c.dropHandle)
  | .dropSignals => (.dropped, c.dropSignals)
  | .watch pid => (answer (c.outcome? pid), c)
  | .look => (.done, c)

def acts (c : Channel) : List Act → List (Answer × Channel)
  | [] => []
  | a :: rest => c.act a :: (c.act a).2.acts rest

end Channel
end MissionWorker.Child
