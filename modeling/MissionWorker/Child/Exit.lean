namespace MissionWorker.Child

inductive Exit where
  | code (n : Int)
  | signal (n : Int)
  | unknown
  deriving DecidableEq, Inhabited

namespace Exit

/-- The end that a wait status tells of: with its low seven bits clear the next eight are an exit
code, and any other value of theirs but the greatest is a signal. -/
def ofStatus (status : Int) : Exit :=
  let low := status % 128
  if low = 0 then .code (status / 256 % 256)
  else if low = 127 then .unknown
  else .signal low

def code? : Exit → Option Int
  | .code n => some n
  | _ => none

def signal? : Exit → Option Int
  | .signal n => some n
  | _ => none

def succeeded (exit : Exit) : Bool := exit == .code 0

def display : Exit → String
  | .code n => "exit code " ++ toString n
  | .signal n => "signal " ++ toString n
  | .unknown => "unknown status"

end Exit

structure Report where
  pid : Option Nat
  exit : Exit
  deriving DecidableEq, Inhabited

def Report.display (r : Report) : String := r.exit.display

end MissionWorker.Child
