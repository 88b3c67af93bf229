import MissionWorker.Config.Bridge
import MissionWorker.Config.Logging
import MissionWorker.Config.Supervisor
import MissionWorker.Config.Worker

namespace MissionWorker

open Document

structure Config where
  worker : Config.Worker := {}
  bridge : Config.Bridge := {}
  supervisor : Config.Supervisor := {}
  logging : Config.Logging := {}
  deriving DecidableEq, Inhabited

namespace Config

def read {σ : Type} [Source σ] : σ → Except Fault Config :=
  Record.read "PlannerConfig" <|
    Config.mk <$> .defaulted "worker" {} Worker.read
      <*> .defaulted "bridge" {} Bridge.read
      <*> .defaulted "supervisor" {} Supervisor.read
      <*> .defaulted "logging" {} Logging.read

def toJson (c : Config) : Json :=
  .object [
    ("bridge", c.bridge.toJson),
    ("logging", c.logging.toJson),
    ("supervisor", c.supervisor.toJson),
    ("worker", c.worker.toJson)]

/-- Checks the parts one after the other; the first error counts. -/
def check (c : Config) : Except Error Unit := do
  c.worker.check
  c.bridge.check
  c.supervisor.check
  c.logging.check

def entry (name value : String) : String := "  " ++ name ++ ": " ++ value ++ "\n"

def entryOf (name : String) : Option String → String
  | some value => entry name value
  | none => ""

def truth (b : Bool) : String := if b then "true" else "false"

/-- A configuration laid out as a file, in the order in which people think of it. Texts stand as
they are, so this is for texts that need no quotes. -/
def layOut (c : Config) : String :=
  "worker:\n" ++
  entryOf "executable" c.worker.executable ++
  entry "python" c.worker.python ++
  entry "module" c.worker.module ++
  entryOf "source_root" c.worker.sourceRoot ++
  entryOf "packaged" (c.worker.packaged.map truth) ++
  entryOf "resources_dir" c.worker.resourcesDir ++
  entryOf "data_dir" c.worker.dataDir ++
  entry "log_level" c.worker.logLevel ++
  "bridge:\n" ++
  entry "host" c.bridge.host ++
  entry "port" (toString c.bridge.port.toNat) ++
  entry "request_timeout" (toString c.bridge.requestTimeout.toNat) ++
  entry "health_timeout" (toString c.bridge.healthTimeout.toNat) ++
  "supervisor:\n" ++
  entry "probe_attempts" (toString c.supervisor.probeAttempts.toNat) ++
  entry "probe_interval" (toString c.supervisor.probeInterval.toNat) ++
  entry "stop_timeout" (toString c.supervisor.stopTimeout.toNat) ++
  entry "max_restarts_per_request" (toString c.supervisor.maxRestarts.toNat) ++
  entry "reconcile_on_start" (truth c.supervisor.reconcileOnStart) ++
  "logging:\n" ++
  entry "level" c.logging.level.name ++
  entry "format" c.logging.format.name ++
  entry "include_location" (truth c.logging.includeLocation) ++
  entry "forward_worker_output" (truth c.logging.forwardWorkerOutput)

def sample : String := layOut {}

end Config
end MissionWorker
