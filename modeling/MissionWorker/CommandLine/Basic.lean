import MissionWorker.CommandLine.Arguments
import MissionWorker.Config.Load
import MissionWorker.Launch.Resolver
import MissionWorker.Supervisor.Session
import MissionWorker.Text.Quoted

namespace MissionWorker.CommandLine

open Supervisor (RequestError Session Task)

/-- What a command may ask for. Nothing else is assumed, so a command is the same on a real system and
on one that is made up. -/
structure System (m : Type → Type) where
  env : Environment
  account : Option Path
  exeDir : Option Path
  cwd : Option Path
  holds : Path → m Bool
  isFile : Path → m Bool
  read : Path → m (Except String (List UInt8))
  makeDirectories : Path → m (Except String Unit)
  write : Path → List UInt8 → m (Except String Unit)
  hold : Session → m (Option Session.Result)

structure Outcome where
  code : Nat := 0
  out : String := ""
  err : String := ""

namespace Outcome

def inset (blanks : String) (s : String) : String := s.replace "\n" ("\n" ++ blanks)

def place (n : Nat) : String :=
  let ds := (toString n).toList
  String.ofList (List.replicate (5 - ds.length) ' ' ++ ds)

def causes : List String → String
  | [] => ""
  | [cause] => "\n\nCaused by:\n    " ++ inset "    " cause
  | all =>
    "\n\nCaused by:" ++ String.join (all.zipIdx.map fun (cause, n) =>
      "\n" ++ place n ++ ": " ++ inset "       " cause)

def failed (message : String) (because : List String) (out : String) : Outcome :=
  { code := 1, out, err := "Error: " ++ message ++ causes because ++ "\n" }

def refused (e : RequestError) : Outcome :=
  let lines : List String :=
    match e with
    | .domain failure =>
      if failure.errors = [] then [failure.render]
      else failure.message :: failure.errors.map fun issue => "   " ++ issue.display
    | e => [e.display]
  { code := 1, err := "❌ " ++ String.join (lines.map (· ++ "\n")) }

def interrupted : Outcome := { code := 130 }

def shown (v : Json) : Outcome := { out := v.pretty ++ "\n" }

end Outcome

def chain : Config.Error → String × List String
  | .unreadable path cause => ((Config.Error.unreadable path cause).message, [cause])
  | e => (e.message, [])

def program : String := "fl-mission"

def usage : String :=
  "Usage: " ++ program ++ " [--config <PATH>] [--log-level <LEVEL>] <COMMAND>\n\n" ++
  "Commands:\n" ++
  "  health     Start the worker and check its health\n" ++
  "  status     Start the worker and show what is known of it\n" ++
  "  grid       Build the survey grid [--cell-size <METRES>]\n" ++
  "  compile    Compile a mission <FILE> [--step <METRES>] [--snap-to-grid]\n" ++
  "             [--grid-cell-size <METRES>]\n" ++
  "  boundary   Fetch and cache the boundary\n" ++
  "  config     validate --config-file <PATH>, or generate --output <PATH> [--force]\n"

section
variable {m : Type → Type} [Monad m]

def origin (s : System m) : Option String → m Config.Origin
  | none => return .nowhere
  | some path => return .file path (← s.read (.ofText path))

def validate (s : System m) (file : String) : m Outcome := do
  if !(← s.holds (.ofText file)) then
    return .failed ("Configuration file not found: " ++ Text.Quoted.path file) [] ""
  match Config.load Config.defaultLead s.env (← origin s (some file)) with
  | .ok _ => return { out := "✅ Configuration file is valid\n" }
  | .error e =>
    let (message, because) := chain e
    return .failed message because ("❌ Configuration validation failed: " ++ message ++ "\n")

def generate (s : System m) (output : String) (force : Bool) : m Outcome := do
  let path := Path.ofText output
  if (← s.holds path) && !force then
    return .failed ("Output file already exists: " ++ Text.Quoted.path output ++
      ". Use --force to overwrite.") [] ""
  if let some directory := path.parent?.filter (!·.isEmpty) then
    if let .error cause ← s.makeDirectories directory then
      return .failed "Failed to create output directory" [cause] ""
  if let .error cause ← s.write path (Text.Utf8.encode Config.sample) then
    return .failed "Failed to write configuration file" [cause] ""
  return {
    out := "✅ Configuration generated at: " ++ Text.Quoted.path output ++ "\n" ++
      "🔧 Validate with: " ++ program ++ " config validate --config-file " ++ Text.Quoted.path output ++
      "\n" }

def configure (s : System m) (o : Options) : m (Except Outcome Config) := do
  match Config.load Config.defaultLead s.env (← origin s o.config) with
  | .error e =>
    let (message, because) := chain e
    return .error (.failed "Failed to load configuration" (message :: because) "")
  | .ok c =>
    match o.logLevel with
    | none => return .ok c
    | some text =>
      match Config.Level.parse? text with
      | some level => return .ok { c with logging := { c.logging with level } }
      | none => return .error (.failed (Config.Level.unknown text) [] "")

def launchOf (s : System m) (c : Config) : m (Except Launch.Error Launch.Spec) := do
  let host : Launch.Host := {
    exeDir := s.exeDir, modulePath := s.env "PYTHONPATH", cwd := s.cwd
    home := .ofEnvironment s.env s.account }
  let r : Launch.Resolver := { worker := c.worker, bridge := c.bridge, host }
  let bundled ← match r.bundled? with
    | some path => s.isFile path
    | none => pure false
  return { r with host := { host with isFile := fun _ => bundled } : Launch.Resolver }.resolve

def prepare (s : System m) (c : Config) : m (Except Outcome (Task → Session)) := do
  let fault (e : RequestError) : Outcome := .failed "Failed to prepare the worker launch" [e.display] ""
  match ← launchOf s c with
  | .error e => return .error (fault (.startup (.launch e)))
  | .ok spec =>
    match Bridge.ofSettings (.ofConfig c.bridge) with
    | .error e => return .error (fault (.protocol e))
    | .ok bridge =>
      return .ok fun task => { options := .ofConfig c.supervisor, spec, bridge, task }

def compileTask (s : System m) (file : String) (step : Float) (snap : Option Float) :
    m (Except RequestError Task) := do
  let unreadable (cause : String) : RequestError :=
    .domain (.rejectedLocally ("Cannot read mission file " ++ file ++ ": " ++ cause))
  match ← s.read (.ofText file) with
  | .error cause => return .error (unreadable cause)
  | .ok bytes =>
    match Text.Utf8.decode? bytes with
    | none => return .error (unreadable "stream did not contain valid UTF-8")
    | some text =>
      let r := (Service.MissionRequest.ofText text).withStep step
      return .ok (.compile (snap.elim r r.snapped))

def taskOf (s : System m) : Command → m (Except RequestError Task)
  | .health => return .ok .health
  | .status | .validate _ | .generate _ _ => return .ok .start
  | .grid cellSize => return .ok (.grid { cellSize })
  | .compile file step snap => compileTask s file step snap
  | .boundary => return .ok .boundary

def delegate (s : System m) (o : Options) (c : Command) : m Outcome := do
  match ← configure s o with
  | .error outcome => return outcome
  | .ok config =>
    match ← prepare s config with
    | .error outcome => return outcome
    | .ok session =>
      match ← taskOf s c with
      | .error e => return .refused e
      | .ok task =>
        match ← s.hold (session task) with
        | none => return .interrupted
        | some { result := .error e, .. } => return .refused e
        | some { result := .ok v, stats } =>
          match c with
          | .status => return .shown stats.toJson
          | _ => return .shown v

def run (s : System m) (args : List String) : m Outcome :=
  match Request.ofArguments? args with
  | none => return { code := 2, err := usage }
  | some .help => return { out := usage }
  | some .version => return { out := program ++ " " ++ version ++ "\n" }
  | some (.run _ (.validate file)) => validate s file
  | some (.run _ (.generate output force)) => generate s output force
  | some (.run o c) => delegate s o c

end
end MissionWorker.CommandLine
