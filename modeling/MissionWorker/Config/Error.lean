import MissionWorker.Decimal.Layout
import MissionWorker.Net.Address
import MissionWorker.Text.Blank

namespace MissionWorker.Config

inductive Error where
  | unreadable (path cause : String)
  | malformed (path : String)
  | override (name message : String)
  | invalid (part message : String)
  deriving DecidableEq

namespace Error

/-- The message of an error; what is wrong with a malformed file is for its reader to say. -/
def message : Error → String
  | .unreadable path cause => "Failed to read config file " ++ path ++ ": " ++ cause
  | .malformed path => "Failed to parse config file " ++ path
  | .override name message => "Invalid value for " ++ name ++ ": " ++ message
  | .invalid part message => "Invalid " ++ part ++ " configuration: " ++ message

def part? : Error → Option String
  | .invalid part _ => some part
  | _ => none

end Error

namespace Rule

def notBlank (part field value : String) : Except Error Unit :=
  if Text.isBlankText value then .error (.invalid part (field ++ " cannot be empty")) else .ok ()

def notPositive (part field written : String) : Error :=
  .invalid part (field ++ " must be greater than 0, got " ++ written)

def positive (part field : String) (value : Int) : Except Error Unit :=
  if value ≤ 0 then .error (notPositive part field (toString value)) else .ok ()

/-- A double must not be zero or less; what is no number passes. -/
def positiveReal (part field : String) (value : Float) : Except Error Unit :=
  if value ≤ 0 then .error (notPositive part field (Decimal.Layout.plain.render value)) else .ok ()

def isLocalhost (host : String) : Bool := Text.lowered host == "localhost"

/-- A host has to be the own one, by name or by address. -/
def loopback (part field host : String) : Except Error Unit := do
  notBlank part field host
  if isLocalhost host then return
  match Net.Address.parse? host with
  | some address =>
    if address.isLoopback then return
    throw (.invalid part (field ++ " must be a loopback address, got " ++ address.display))
  | none => throw (.invalid part (field ++ " is not a valid address: " ++ host))

def oneOf (part field value : String) (choices : List String) : Except Error Unit :=
  if value ∈ choices then .ok ()
  else .error (.invalid part
    (field ++ " must be one of: " ++ ", ".intercalate choices ++ ", got '" ++ value ++ "'"))

end Rule
end MissionWorker.Config
