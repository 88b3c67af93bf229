import MissionWorker.Service.Boundary
import MissionWorker.Service.Endpoint
import MissionWorker.Supervisor.State

namespace MissionWorker.Supervisor

open Document Service

inductive Task where
  | start
  | stop
  | shutdown
  | request (endpoint : String) (payload : Option Json)
  | health
  | grid (r : GridRequest)
  | compile (r : MissionRequest)
  | boundary

namespace Task

/-- The job, or why there is none: what the worker would refuse is turned down here. -/
def job : Task → Except Failure Job
  | .start => .ok .start
  | .stop => .ok .stop
  | .shutdown => .ok .shutdown
  | .request endpoint payload => .ok (.request endpoint payload)
  | .health => .ok (.request Endpoint.health none)
  | .grid r => r.check.map fun _ => .request Endpoint.gridBuild (some r.toJson)
  | .compile r => r.check.map fun _ => .request Endpoint.missionCompile (some r.toJson)
  | .boundary => .ok (.request Endpoint.boundaryCache (some (.object [])))

def readAnswer : Task → Json → Except Fault Json
  | .health, v => (Health.read v).map Health.toJson
  | .grid _, v => (GridSummary.read v).map GridSummary.toJson
  | .compile _, v => (CompiledMission.read v).map CompiledMission.toJson
  | .boundary, v => (BoundaryInfo.read v).map BoundaryInfo.toJson
  | _, v => .ok v

def result (t : Task) : Result → Result
  | .error e => .error e
  | .ok v =>
    match t.readAnswer v with
    | .ok v => .ok v
    | .error fault => .error (.ofFault fault)

end Task
end MissionWorker.Supervisor
