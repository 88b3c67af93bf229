import MissionWorker.Path

namespace MissionWorker

abbrev Environment := String → Option (List UInt8)

namespace Environment

def empty : Environment := fun _ => none

def assign (e : Environment) (name : String) (value : Option (List UInt8)) : Environment :=
  fun n => if n = name then value else e n

/-- The value of a variable as a text; bytes that are no text count as unset. -/
def text? (e : Environment) (name : String) : Option String :=
  (e name).bind Text.Utf8.decode?

def path? (e : Environment) (name : String) : Option Path := (e name).map Path.mk

end Environment
end MissionWorker
