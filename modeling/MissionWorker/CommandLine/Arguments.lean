import MissionWorker.Decimal.Text
import MissionWorker.Service.Grid
import MissionWorker.Service.Mission

namespace MissionWorker.CommandLine

structure Options where
  config : Option String := none
  logLevel : Option String := none

inductive Command where
  | health
  | status
  | grid (cellSize : Float)
  | compile (file : String) (step : Float) (snap : Option Float)
  | boundary
  | validate (file : String)
  | generate (output : String) (force : Bool)

inductive Request where
  | run (o : Options) (c : Command)
  | help
  | version

inductive Level where
  | top | health | status | grid | compile | boundary | config | validate | generate
  deriving DecidableEq

namespace Level

def below : Level → List (String × Level)
  | .top => [("health", .health), ("status", .status), ("grid", .grid), ("compile", .compile),
      ("boundary", .boundary), ("config", .config)]
  | .config => [("validate", .validate), ("generate", .generate)]
  | _ => []

def everywhere : List String := ["config", "log-level"]

def valued (l : Level) : List String :=
  everywhere ++ match l with
    | .grid => ["cell-size"]
    | .compile => ["step", "grid-cell-size"]
    | .validate => ["config-file"]
    | .generate => ["output"]
    | _ => []

def flags : Level → List String
  | .compile => ["snap-to-grid"]
  | .generate => ["force"]
  | _ => []

def places : Level → Nat
  | .compile => 1
  | _ => 0

end Level

structure Given where
  values : List (String × String) := []
  flags : List String := []
  files : List String := []

namespace Given

/-- Whether a text may be the value of an option: numbers and paths have a form. -/
def isFit (option value : String) : Bool :=
  if option ∈ ["cell-size", "step", "grid-cell-size"] then (Decimal.ofText? value).isSome
  else option == "log-level" || value != ""

def addValue? (g : Given) (option value : String) : Option Given :=
  if isFit option value && (g.values.lookup option).isNone then
    some { g with values := (option, value) :: g.values }
  else none

def addFlag? (g : Given) (flag : String) : Option Given :=
  if g.flags.contains flag then none else some { g with flags := flag :: g.flags }

def addFile? (l : Level) (g : Given) (file : String) : Option Given :=
  if g.files.length < l.places && file != "" then some { g with files := g.files ++ [file] } else none

def number (g : Given) (option : String) : Option Float := (g.values.lookup option).bind Decimal.ofText?

end Given

def finish (l : Level) (outer : List (String × String)) (g : Given) : Option Request :=
  let all := g.values ++ outer
  let run := Request.run { config := all.lookup "config", logLevel := all.lookup "log-level" }
  match l with
  | .top | .config => none
  | .health => some (run .health)
  | .status => some (run .status)
  | .boundary => some (run .boundary)
  | .grid => some (run (.grid ((g.number "cell-size").getD Service.defaultCellSize)))
  | .compile => do
    let file ← g.files.head?
    let snap := g.flags.contains "snap-to-grid"
    let size := g.number "grid-cell-size"
    if size.isSome && !snap then none
    let step := (g.number "step").getD Service.defaultStep
    return run (.compile file step
      (if snap then some (size.getD Service.defaultCellSize) else none))
  | .validate => (g.values.lookup "config-file").map (run <| .validate ·)
  | .generate => (g.values.lookup "output").map fun path => run (.generate path (g.flags.contains "force"))

inductive Word where
  | option (name : String) (attached : Option String)
  | letter (c : Char)
  | separator
  | plain

def Word.ofText (s : String) : Word :=
  match s.toList with
  | ['-', '-'] => .separator
  | '-' :: '-' :: cs =>
    .option (String.ofList (cs.takeWhile (· != '=')))
      (match cs.dropWhile (· != '=') with
        | _ :: value => some (String.ofList value)
        | [] => none)
  | '-' :: c :: _ => .letter c
  | _ => .plain

def leads (l : Level) : List String → Bool
  | [] => true
  | word :: rest =>
    match l.below.lookup word with
    | some next => leads next rest
    | none => false

def read (l : Level) (outer : List (String × String)) (g : Given) : List String → Option Request
  | [] => finish l outer g
  | word :: rest =>
    match Word.ofText word with
    | .separator => (rest.foldlM (Given.addFile? l) g).bind (finish l outer)
    | .letter 'h' => some .help
    | .letter c => if c = 'V' && l = .top then some .version else none
    | .option "help" none => some .help
    | .option "version" none => if l = .top then some .version else none
    | .option name attached =>
      if name ∈ l.flags then
        if attached.isSome then none else (g.addFlag? name).bind fun g => read l outer g rest
      else if name ∈ l.valued then
        match attached, rest with
        | some value, rest => (g.addValue? name value).bind fun g => read l outer g rest
        | none, value :: rest =>
          match Word.ofText value with
          | .plain => (g.addValue? name value).bind fun g => read l outer g rest
          | _ => none
        | none, [] => none
      else none
    | .plain =>
      match l.below.lookup word with
      | some next => read next (g.values ++ outer) {} rest
      | none =>
        if word = "help" && l.below ≠ [] then if leads l rest then some .help else none
        else (g.addFile? l word).bind fun g => read l outer g rest

def Request.ofArguments? (args : List String) : Option Request := read .top [] {} args

end MissionWorker.CommandLine
