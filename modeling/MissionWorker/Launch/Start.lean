import MissionWorker.Files
import MissionWorker.Launch.Error
import MissionWorker.Launch.Spec

namespace MissionWorker.Launch

structure Place where
  files : Files
  cwd : Path
  search : List Path

inductive Obstacle where
  | path (cause : Files.Cause)
  | denied
  deriving DecidableEq

def Obstacle.message : Obstacle → String
  | .path .zeroByte => "nul byte found in provided data"
  | .path cause => cause.message
  | .denied => "Permission denied (os error 13)"

def Obstacle.error (program : Path) : Obstacle → Error
  | .path .notFound => .notFound program.display
  | o => .spawn program.display o.message

def Spec.hasZero (spec : Spec) : Bool :=
  spec.program.bytes.contains 0 || spec.args.any (·.toList.contains '\x00') ||
    spec.env.any (fun (n, v) => n.toList.contains '\x00' || v.contains 0) ||
    spec.directory.any (·.bytes.contains 0)

namespace Place

def enter (h : Place) (directory : Option Path) : Except Obstacle Path :=
  match directory with
  | none => .ok h.cwd
  | some d =>
    match h.files.find h.cwd d with
    | .ok (.directory _) => .ok (h.cwd.append d)
    | .ok (.file _ _) => .error (.path .notDirectory)
    | .error cause => .error (.path cause)

def program (h : Place) (cwd p : Path) : Except Obstacle (List UInt8) :=
  match h.files.find cwd p with
  | .ok (.file content true) => .ok content
  | .ok _ => .error .denied
  | .error cause => .error (.path cause)

/-- The content of the first program of that name among the directories. A name that is found, but
is no program, is better than none. -/
def searchIn (h : Place) (cwd name : Path) (best : Obstacle) : List Path → Except Obstacle (List UInt8)
  | [] => .error best
  | d :: rest =>
    match h.program cwd (d.append name) with
    | .ok content => .ok content
    | .error .denied => h.searchIn cwd name .denied rest
    | .error _ => h.searchIn cwd name best rest

def start (h : Place) (spec : Spec) : Except Error (List UInt8) :=
  let found : Except Obstacle (List UInt8) :=
    if spec.hasZero then .error (.path .zeroByte)
    else do
      let cwd ← h.enter spec.directory
      if spec.program.bytes.contains Path.slash then h.program cwd spec.program
      else if spec.program.isEmpty then throw (.path .notFound)
      else if spec.program.bytes.length > Files.maxName then throw (.path .nameTooLong)
      else h.searchIn cwd spec.program (.path .notFound) h.search
  found.mapError (Obstacle.error spec.program)

end Place
end MissionWorker.Launch
