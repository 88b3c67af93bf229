namespace MissionWorker.Recovery

inductive Class where
  | transient
  | fatal
  deriving DecidableEq

/-- The class of a status: failures of the server pass, all others are about the request. -/
def Class.ofStatus (status : Nat) : Class :=
  if 500 ≤ status ∧ status < 600 then .transient else .fatal

inductive Decision where
  | restart
  | surface
  deriving DecidableEq

structure Policy where
  maxRestarts : Nat := 1

def Policy.never : Policy := { maxRestarts := 0 }

def Policy.decide (policy : Policy) (cause : Class) (used : Nat) : Decision :=
  match cause with
  | .fatal => .surface
  | .transient => if used < policy.maxRestarts then .restart else .surface

end MissionWorker.Recovery
