import MissionWorker.Decimal.Layout
import MissionWorker.Text.Quoted

namespace MissionWorker.Document

/-- What stands in a document where something else was expected. -/
inductive Found where
  | flag (b : Bool)
  | integer (n : Int)
  | float (x : Float)
  | text (s : String)
  | null
  | sequence
  | map

def Found.describe : Found → String
  | .flag b => "boolean `" ++ (if b then "true" else "false") ++ "`"
  | .integer n => "integer `" ++ toString n ++ "`"
  | .float x => "floating point `" ++ Decimal.Layout.document.render x ++ "`"
  | .text s => "string " ++ Text.Quoted.text s
  | .null => "null"
  | .sequence => "sequence"
  | .map => "map"

inductive Fault where
  | wrongType (found : Found) (expected : String)
  | wrongValue (found : Found) (expected : String)
  | wrongLength (length : Nat) (expected : String)
  | missing (field : String)
  | unknownChoice (found : String) (choices : List String)

def marked (words : List String) : String :=
  ", ".intercalate (words.map fun w => "`" ++ w ++ "`")

def Fault.message : Fault → String
  | .wrongType found expected => "invalid type: " ++ found.describe ++ ", expected " ++ expected
  | .wrongValue found expected => "invalid value: " ++ found.describe ++ ", expected " ++ expected
  | .wrongLength length expected => "invalid length " ++ toString length ++ ", expected " ++ expected
  | .missing field => "missing field `" ++ field ++ "`"
  | .unknownChoice found choices =>
    "unknown variant `" ++ found ++ "`, expected one of " ++ marked choices

end MissionWorker.Document
