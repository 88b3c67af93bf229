import MissionWorker.Bridge.Error
import MissionWorker.Child.Exit
import MissionWorker.Launch.Error
import MissionWorker.Probe

namespace MissionWorker.Supervisor

/-- Why a worker did not become ready. All who wait for one start are told the same. -/
inductive StartupError where
  | launch (e : Launch.Error)
  | timeout (attempts : Nat)
  | exited (report : Child.Report)
  | cancelled
  | shuttingDown
  | aborted

def StartupError.ofProbe : Probe.Error → StartupError
  | .timeout attempts => .timeout attempts
  | .cancelled => .cancelled

def StartupError.display : StartupError → String
  | .launch e => e.display
  | .timeout attempts => Probe.neverHealthy attempts
  | .exited report => "Worker exited during startup (" ++ report.display ++ ")"
  | .cancelled => "Worker startup cancelled"
  | .shuttingDown => "Supervisor is shutting down"
  | .aborted => "Worker startup was abandoned"

inductive RequestError where
  | startup (e : StartupError)
  | transient (e : Bridge.Error)
  | domain (failure : Service.Failure)
  | protocol (e : Bridge.Error)

namespace RequestError

def ofCall (e : Bridge.Error) : RequestError :=
  if e.isTransient then .transient e
  else match e with
    | .rejected failure => .domain failure
    | e => .protocol e

def ofFault (fault : Document.Fault) : RequestError := .protocol (.malformed fault.message)

def display : RequestError → String
  | .startup e => e.display
  | .transient e => "Worker unavailable: " ++ e.display
  | .domain failure => failure.render
  | .protocol e => "Protocol error: " ++ e.display

def issues : RequestError → List Service.Issue
  | .domain failure => failure.errors
  | _ => []

def isDomain : RequestError → Bool
  | .domain _ => true
  | _ => false

end RequestError
end MissionWorker.Supervisor
