import MissionWorker.Config.Error
import MissionWorker.Document.Record
import MissionWorker.Environment

namespace MissionWorker.Config

open Document

/-- The part of the configuration about the worker's process. Paths are texts here, because a file
and the variables that override it give nothing else. -/
structure Worker where
  executable : Option String := none
  python : String := "python3"
  module : String := "server.main"
  sourceRoot : Option String := none
  packaged : Option Bool := none
  resourcesDir : Option String := none
  dataDir : Option String := none
  logLevel : String := "info"
  deriving DecidableEq, Inhabited

namespace Worker

def logLevels : List String := ["critical", "error", "warning", "info", "debug", "trace"]

def part : String := "worker"

def read {σ : Type} [Source σ] : σ → Except Fault Worker :=
  Record.read "WorkerConfig" <|
    Worker.mk <$> .defaulted "executable" none (optionally Source.path)
      <*> .defaulted "python" "python3" Source.text
      <*> .defaulted "module" "server.main" Source.text
      <*> .defaulted "source_root" none (optionally Source.path)
      <*> .defaulted "packaged" none (optionally Source.flag)
      <*> .defaulted "resources_dir" none (optionally Source.path)
      <*> .defaulted "data_dir" none (optionally Source.path)
      <*> .defaulted "log_level" "info" Source.text

def check (c : Worker) : Except Error Unit := do
  Rule.notBlank part "python" c.python
  Rule.notBlank part "module" c.module
  Rule.oneOf part "log_level" c.logLevel logLevels
  if c.executable = some "" then throw (.invalid part "executable cannot be empty")

end Worker

def memberOf {α : Type} (encode : α → Json) (name : String) : Option α → Json.Members
  | some a => [(name, encode a)]
  | none => []

def Worker.toJson (c : Worker) : Json :=
  .object <|
    memberOf .text "data_dir" c.dataDir ++
    memberOf .text "executable" c.executable ++
    [("log_level", .text c.logLevel), ("module", .text c.module)] ++
    memberOf .bool "packaged" c.packaged ++
    [("python", .text c.python)] ++
    memberOf .text "resources_dir" c.resourcesDir ++
    memberOf .text "source_root" c.sourceRoot

structure Home where
  dataHome : Option Path := none
  home : Option Path := none
  temporary : Path := .ofText "/tmp"

/-- What an environment says; a user without a directory of their own has that of the account. -/
def Home.ofEnvironment (env : Environment) (account : Option Path) : Home where
  dataHome := env.path? "XDG_DATA_HOME"
  home :=
    match env.path? "HOME" with
    | some home => if home.isEmpty then account else some home
    | none => account
  temporary := (env.path? "TMPDIR").getD (.ofText "/tmp")

/-- The directory for data of all programs; a relative one does not count. -/
def Home.dataDir (h : Home) : Path :=
  match h.dataHome.filter Path.isAbsolute with
  | some dir => dir
  | none =>
    match h.home with
    | some home => home.append (.ofText ".local/share")
    | none => h.temporary

def Worker.dataDirIn (c : Worker) (h : Home) : Path :=
  match c.dataDir with
  | some dir => .ofText dir
  | none => h.dataDir.append (.ofText "fl-mission-planner")

end MissionWorker.Config
