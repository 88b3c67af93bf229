import MissionWorker.Recovery
import MissionWorker.Service.Failure

namespace MissionWorker.Bridge

open Service

inductive Error where
  | unreachable (message : String)
  | timedOut (message : String)
  | rejected (failure : Failure)
  | malformed (message : String)
  | invalidEndpoint (message : String)

structure Fault where
  timeout : Bool := false
  decode : Bool := false
  builder : Bool := false
  message : String

namespace Error

/-- The first flag that is set counts. What none is set for has gone wrong on the way to the worker. -/
def ofFault (fault : Fault) : Error :=
  if fault.timeout then .timedOut fault.message
  else if fault.decode then .malformed fault.message
  else if fault.builder then .invalidEndpoint fault.message
  else .unreachable fault.message

def display : Error → String
  | .unreachable message => "Worker unreachable: " ++ message
  | .timedOut message => "Worker request timed out: " ++ message
  | .rejected failure => "Worker returned " ++ toString failure.status ++ ": " ++ failure.render
  | .malformed message => "Malformed worker response: " ++ message
  | .invalidEndpoint message => "Invalid endpoint: " ++ message

def failure? : Error → Option Failure
  | .rejected failure => some failure
  | _ => none

def recovery : Error → Recovery.Class
  | .unreachable _ | .timedOut _ => .transient
  | .rejected failure => .ofStatus failure.status
  | .malformed _ | .invalidEndpoint _ => .fatal

def isTransient (e : Error) : Bool := e.recovery == .transient

end Error
end MissionWorker.Bridge
