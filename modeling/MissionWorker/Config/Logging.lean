import MissionWorker.Config.Error
import MissionWorker.Document.Record

namespace MissionWorker.Config

open Document

inductive Level where
  | error | warn | info | debug | trace
  deriving DecidableEq, Inhabited

namespace Level

def name : Level → String
  | .error => "error"
  | .warn => "warn"
  | .info => "info"
  | .debug => "debug"
  | .trace => "trace"

def all : List Level := [.error, .warn, .info, .debug, .trace]

def ofName? (name : String) : Option Level := all.find? (·.name == name)

def parse? (s : String) : Option Level :=
  match Text.lowered s with
  | "warning" => some .warn
  | name => ofName? name

def unknown (s : String) : String := "Invalid log level: " ++ s

end Level

inductive Format where
  | json | text | compact | pretty
  deriving DecidableEq, Inhabited

namespace Format

def name : Format → String
  | .json => "json"
  | .text => "text"
  | .compact => "compact"
  | .pretty => "pretty"

def all : List Format := [.json, .text, .compact, .pretty]

def ofName? (name : String) : Option Format := all.find? (·.name == name)

def parse? (s : String) : Option Format := ofName? (Text.lowered s)

def unknown (s : String) : String := "Invalid log format: " ++ s

end Format

structure Logging where
  level : Level := .info
  format : Format := .text
  includeLocation : Bool := false
  forwardWorkerOutput : Bool := true
  deriving DecidableEq, Inhabited

namespace Logging

def part : String := "logging"

def readLevel {σ : Type} [Source σ] (x : σ) : Except Fault Level :=
  (Source.choice (Level.all.map Level.name) x).map fun name => (Level.ofName? name).getD .info

def readFormat {σ : Type} [Source σ] (x : σ) : Except Fault Format :=
  (Source.choice (Format.all.map Format.name) x).map fun name => (Format.ofName? name).getD .text

def read {σ : Type} [Source σ] : σ → Except Fault Logging :=
  Record.read "LoggingConfig" <|
    Logging.mk <$> .defaulted "level" .info readLevel
      <*> .defaulted "format" .text readFormat
      <*> .defaulted "include_location" false Source.flag
      <*> .defaulted "forward_worker_output" true Source.flag

def toJson (c : Logging) : Json :=
  .object [
    ("format", .text c.format.name),
    ("forward_worker_output", .bool c.forwardWorkerOutput),
    ("include_location", .bool c.includeLocation),
    ("level", .text c.level.name)]

def check (_ : Logging) : Except Error Unit := .ok ()

end Logging
end MissionWorker.Config
