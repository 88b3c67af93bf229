import MissionWorker.Config.Basic
import MissionWorker.Launch.Error
import MissionWorker.Launch.Spec

namespace MissionWorker.Launch

inductive Mode where
  | override
  | packaged
  | source
  deriving DecidableEq

def Mode.name : Mode → String
  | .override => "override"
  | .packaged => "packaged"
  | .source => "source"

structure Host where
  exeDir : Option Path := none
  modulePath : Option (List UInt8) := none
  cwd : Option Path := none
  home : Config.Home := {}
  isFile : Path → Bool := fun _ => false

structure Resolver where
  worker : Config.Worker
  bridge : Config.Bridge
  host : Host

namespace Resolver

def bundledName : String := "fl-mission-worker"

def bundled? (r : Resolver) : Option Path :=
  ((r.worker.resourcesDir.map Path.ofText) <|> r.host.exeDir).map fun resources =>
    (resources.append (.ofText "worker")).append (.ofText bundledName)

def hasBundled (r : Resolver) : Bool := r.bundled?.any r.host.isFile

def mode (r : Resolver) : Mode :=
  if r.worker.executable.isSome then .override
  else if r.worker.packaged.getD r.hasBundled then .packaged
  else .source

/-- The directories that are searched for modules: the root, then the inherited ones that are not
the root. -/
def modulePaths (root : Path) (inherited : Option (List UInt8)) : List Path :=
  root :: match inherited with
    | some bytes => ((Path.split Path.colon bytes).map Path.mk).filter fun p => !p.same root
    | none => []

/-- The directories with colons between them; none of them may hold one. -/
def modulePath (root : Path) (inherited : Option (List UInt8)) : Except Error (List UInt8) :=
  let paths := modulePaths root inherited
  if paths.any (·.bytes.contains Path.colon) then
    .error (.unresolved "invalid PYTHONPATH: path segment contains separator `:`")
  else .ok (Path.join Path.colon (paths.map Path.bytes))

def fromItsDirectory (program : Path) : Spec :=
  match program.parent?.filter (!·.isEmpty) with
  | some directory => { program, directory := some directory }
  | none => { program }

def bundledSpec (r : Resolver) : Except Error Spec :=
  match r.bundled? with
  | some program => .ok { program, directory := program.parent? }
  | none => .error (.unresolved "packaged mode requested but no resources directory is known")

def sourceSpec (r : Resolver) : Except Error Spec :=
  match (r.worker.sourceRoot.map Path.ofText) <|> r.host.cwd with
  | none => .error (.unresolved "worker source root is unknown")
  | some root => do
    let path ← modulePath root r.host.modulePath
    return { program := .ofText r.worker.python, args := ["-m", r.worker.module] : Spec }
      |>.withVariable "PYTHONPATH" path
      |>.withVariable "PYTHONUNBUFFERED" (Text.Utf8.encode "1")
      |>.within root

def complete (r : Resolver) (spec : Spec) : Spec :=
  spec
  |>.withArgs ["--host", r.bridge.host, "--port", toString r.bridge.port.toNat,
    "--log-level", r.worker.logLevel]
  |>.withVariable "FL_MISSION_APP_DATA" (r.worker.dataDirIn r.host.home).bytes
  |>.withVariable "FL_MISSION_WORKER_ADDR" (Text.Utf8.encode r.bridge.address)

def resolve (r : Resolver) : Except Error Spec := do
  let spec ← match r.mode with
    | .override => .ok (fromItsDirectory (.ofText (r.worker.executable.getD "")))
    | .packaged => r.bundledSpec
    | .source => r.sourceSpec
  return r.complete spec

end Resolver
end MissionWorker.Launch
