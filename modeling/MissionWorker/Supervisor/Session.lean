import MissionWorker.Bridge.Exchange
import MissionWorker.Child.Shutdown
import MissionWorker.Launch.Start
import MissionWorker.Supervisor.Scenario

namespace MissionWorker.Supervisor

structure Session where
  options : Options
  spec : Launch.Spec
  bridge : Bridge
  task : Task

structure Session.Result where
  result : Supervisor.Result
  stats : Stats

/-- What is around a supervisor. -/
structure Surroundings where
  place : Launch.Place
  course : List UInt8 → Child.Course
  network : Bridge.Network

namespace Surroundings

def part (n : Nat) (c : Child.Course) : Scenario.ProcessPart where
  pid := some (n + 1)
  endsAfter := c.alone.map (·.1)
  ending := .exit ((c.alone.map (·.2)).getD .unknown)
  onRequest := c.onRequest

def script (w : Surroundings) (s : Session) : Scenario.Script where
  options := s.options
  launch n :=
    (0, match w.place.start s.spec with
      | .error e => .fails e
      | .ok content => .runs (part n (w.course content)))
  check n := { after := some 0, healthy := (s.bridge.health w.network n).1.isOk }
  call endpoint payload n :=
    { after := some 0, answer := (s.bridge.call w.network n endpoint payload).1 }

end Surroundings

namespace Session

/-- What comes of a session when the world around it plays its parts; nothing, if it does not come
to an end. -/
def play (s : Session) (script : Scenario.Script) : Option Session.Result :=
  match ({} : Scenario.Stage).performAll script [.run s.task, .run .shutdown] with
  | { answer := .result _ result, world, .. } :: _ => some { result, stats := world.state.stats }
  | _ => none

def holdIn (s : Session) (w : Surroundings) : Option Session.Result := s.play (w.script s)

def holdNowhere (s : Session) : Option Session.Result :=
  let missing : Launch.Error := .spawn s.spec.program.display "Function not implemented (os error 38)"
  s.play {
    options := s.options
    launch := fun _ => (0, .fails missing)
    check := fun _ => { after := some 0, healthy := false }
    call := fun _ _ _ => { after := some 0, answer := .error (.unreachable "nobody is there") } }

end Session
end MissionWorker.Supervisor
