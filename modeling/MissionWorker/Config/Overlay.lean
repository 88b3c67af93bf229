import MissionWorker.Config.Basic

namespace MissionWorker.Config

def digitsBelow (limit : Nat) : (value : Nat) → List Char → Except String Nat
  | value, [] => .ok value
  | value, c :: rest =>
    if c.isDigit then
      let next := value * 10 + (c.toNat - '0'.toNat)
      if next < limit then digitsBelow limit next rest
      else .error "number too large to fit in target type"
    else .error "invalid digit found in string"

/-- The number below a limit that a text writes, perhaps with a plus sign. -/
def numberBelow (limit : Nat) (s : String) : Except String Nat :=
  match s.toList with
  | [] => .error "cannot parse integer from empty string"
  | ['+'] => .error "invalid digit found in string"
  | '+' :: rest => digitsBelow limit 0 rest
  | cs => digitsBelow limit 0 cs

def truth? (s : String) : Option Bool :=
  let word := Text.lowered (Text.trimmed s)
  if word ∈ ["1", "true", "yes", "on"] then some true
  else if word ∈ ["0", "false", "no", "off"] then some false
  else none

/-- A value that a variable takes the place of: the end of the variable's name, and the
configuration that comes of the variable's value. -/
structure Override where
  name : String
  apply : String → Config → Except String Config

namespace Override

/-- A path; a blank value changes nothing. -/
def path (name : String) (set : String → Config → Config) : Override where
  name
  apply value c := .ok (if Text.isBlankText value then c else set value c)

def text (name : String) (set : String → Config → Config) : Override where
  name
  apply value c := .ok (set value c)

def number (name : String) (limit : Nat) (set : Nat → Config → Config) : Override where
  name
  apply value c := (numberBelow limit (Text.trimmed value)).map fun n => set n c

def choice {α : Type} (name : String) (parse : String → Option α) (complaint : String → String)
    (set : α → Config → Config) : Override where
  name
  apply value c :=
    match parse value with
    | some a => .ok (set a c)
    | none => .error (complaint value)

def ofWorker : List Override := [
  path "WORKER_BIN" fun v c => { c with worker.executable := some v },
  text "PYTHON" fun v c => { c with worker.python := v },
  path "WORKER_SOURCE" fun v c => { c with worker.sourceRoot := some v },
  choice "PACKAGED" truth? (fun v => "expected a boolean, got '" ++ v ++ "'")
    fun b c => { c with worker.packaged := some b },
  path "APP_DATA" fun v c => { c with worker.dataDir := some v }]

def ofBridge : List Override := [
  text "WORKER_HOST" fun v c => { c with bridge.host := v },
  number "WORKER_PORT" UInt16.size fun n c => { c with bridge.port := .ofNat n },
  number "REQUEST_TIMEOUT" UInt64.size fun n c => { c with bridge.requestTimeout := .ofNat n }]

def ofSupervisor : List Override := [
  number "PROBE_ATTEMPTS" UInt32.size fun n c => { c with supervisor.probeAttempts := .ofNat n },
  number "PROBE_INTERVAL_MS" UInt64.size fun n c => { c with supervisor.probeInterval := .ofNat n },
  number "STOP_TIMEOUT_MS" UInt64.size fun n c => { c with supervisor.stopTimeout := .ofNat n },
  number "MAX_RESTARTS" UInt32.size fun n c => { c with supervisor.maxRestarts := .ofNat n }]

def ofLogging : List Override := [
  choice "LOG_LEVEL" Level.parse? Level.unknown fun l c => { c with logging.level := l },
  choice "LOG_FORMAT" Format.parse? Format.unknown fun f c => { c with logging.format := f }]

/-- All overrides. They are looked at in this order, and the first with a malformed value is reported.
-/
def all : List Override := ofWorker ++ ofBridge ++ ofSupervisor ++ ofLogging

def variableName (lead : String) (o : Override) : String := lead ++ "_" ++ o.name

def overlay (lead : String) (env : Environment) (o : Override) (c : Config) :
    Except Error Config :=
  match env.text? (o.variableName lead) with
  | none => .ok c
  | some value =>
    match o.apply value c with
    | .ok c => .ok c
    | .error message => .error (.override (o.variableName lead) message)

end Override

def overlaid (lead : String) (env : Environment) (c : Config) : Except Error Config :=
  Override.all.foldlM (fun c o => o.overlay lead env c) c

end MissionWorker.Config
