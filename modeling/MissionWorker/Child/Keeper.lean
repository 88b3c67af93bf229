import MissionWorker.Child.Handle

namespace MissionWorker.Child

/-- Why the end of a process stays unknown: it could not be waited for though nothing had been asked,
it could not be killed and no end was to be seen, it was killed and could not be waited for, or it
survived being killed. -/
inductive Loss where
  | astray
  | unkillable
  | unattended
  | unresponsive
  deriving DecidableEq

def killPatience : Nat := 5000

/-- Where a keeper is. It lingers after a polite request and reaps after a kill, both up to a time;
where it could not kill, it looks whether the process has ended meanwhile. -/
inductive Point where
  | watching
  | asked (mode : Termination)
  | lingering (limit : Nat)
  | killing
  | looking
  | reaping (limit : Nat)
  | settled (result : Except Loss Exit)
  | done (result : Except Loss Exit)

def Point.isWaiting : Point → Bool
  | .watching | .lingering _ | .reaping _ => true
  | _ => false

def Point.result? : Point → Option (Except Loss Exit)
  | .settled result | .done result => some result
  | _ => none

inductive Deed where
  | request (delivered : Bool)
  | kill (delivered : Bool)
  | waitFailed
  | lookFailed
  | report (report : Report)
  deriving DecidableEq

/-- A process with its keeper, at a moment in milliseconds. Between two acts of the keeper anything
may happen, and whatever it wants from the system may fail. -/
structure Keeper where
  channel : Channel
  point : Point := .watching
  now : Nat := 0
  /-- When the process ended, and how, whether the keeper knows that or not. -/
  ended : Option (Nat × Exit) := none
  /-- Whether the keeper has collected the end, so that the process cannot be signalled any more. -/
  collected : Bool := false
  order : Option (Nat × Termination) := none
  deeds : List (Nat × Deed) := []

namespace Keeper

def launched (pid : Option Nat) : Keeper := { channel := { pid } }

/-- The keeper of a process that is to be ended. The process may have ended before, and its end may
have been collected. -/
def handed (ended : Option (Nat × Exit)) (collected : Bool) (now : Nat) (mode : Termination) :
    Keeper where
  channel := { pid := none }
  point := .asked mode
  now := now
  ended := ended
  collected := collected && ended.isSome
  order := some (now, mode)

inductive Act where
  | pass (time : Nat)
  | exits (exit : Exit)
  | terminate (mode : Termination)
  | dropHandle
  | returned
  | failed
  | timeUp
  | receive
  | begin (delivered : Bool)
  | kill (delivered : Bool)
  | look
  | report

def Act.isOwn : Act → Bool
  | .pass _ | .exits _ | .terminate _ | .dropHandle => false
  | _ => true

def goTo (k : Keeper) (p : Point) : Keeper := { k with point := p }

def note (k : Keeper) (d : Deed) : Keeper := { k with deeds := k.deeds ++ [(k.now, d)] }

def collect (k : Keeper) (exit : Exit) : Keeper :=
  { k with collected := true, point := .settled (.ok exit) }

def fail (k : Keeper) : Option Keeper :=
  if k.collected then none
  else
    match k.point with
    | .watching => some ((k.note .waitFailed).goTo (.settled (.error .astray)))
    | .lingering _ => some ((k.note .waitFailed).goTo .killing)
    | .looking => some ((k.note .lookFailed).goTo (.settled (.error .unkillable)))
    | .reaping _ => some ((k.note .waitFailed).goTo (.settled (.error .unattended)))
    | _ => none

/-- What is asked is begun: a polite request goes out, unless the end is collected already. -/
def start (k : Keeper) (delivered : Bool) : Termination → Keeper
  | .force => k.goTo .killing
  | .graceful patience =>
    (if k.collected then k else k.note (.request delivered)).goTo (.lingering (k.now + patience))

def strike (k : Keeper) (delivered : Bool) : Keeper :=
  if k.collected then k.goTo .looking
  else (k.note (.kill delivered)).goTo (if delivered then .reaping (k.now + killPatience) else .looking)

def account (k : Keeper) (result : Except Loss Exit) : Report :=
  { pid := k.channel.pid, exit := result.toOption.getD .unknown }

def step (k : Keeper) : Act → Option Keeper
  | .pass time => some { k with now := k.now + time }
  | .exits exit => if k.ended.isSome then none else some { k with ended := some (k.now, exit) }
  | .terminate mode =>
    if k.channel.handleOpen then some { k with channel := k.channel.terminate mode } else none
  | .dropHandle =>
    if k.channel.handleOpen then some { k with channel := k.channel.dropHandle } else none
  | .returned => if k.point.isWaiting then k.ended.map fun (_, exit) => k.collect exit else none
  | .failed => k.fail
  | .timeUp =>
    -- A wait that is over with the end is not over because of the time.
    if k.ended.isSome then none
    else
      match k.point with
      | .lingering limit => if limit ≤ k.now then some (k.goTo .killing) else none
      | .reaping limit =>
        if limit ≤ k.now then some (k.goTo (.settled (.error .unresponsive))) else none
      | _ => none
  | .receive =>
    match k.point with
    | .watching => k.channel.receive?.map fun (mode, channel) =>
        { k with channel, order := some (k.now, mode), point := .asked mode }
    | _ => none
  | .begin delivered =>
    match k.point with
    | .asked mode => some (k.start delivered mode)
    | _ => none
  | .kill delivered =>
    match k.point with
    | .killing => some (k.strike delivered)
    | _ => none
  | .look =>
    match k.point with
    | .looking =>
      match k.ended with
      | some (_, exit) => some (k.collect exit)
      | none => some (k.goTo (.settled (.error .unkillable)))
    | _ => none
  | .report =>
    match k.point with
    | .settled result =>
      let report := k.account result
      some (({ k with channel := k.channel.reportExit report }.note (.report report)).goTo
        (.done result))
    | _ => none

def run (k : Keeper) : List Act → Option Keeper
  | [] => some k
  | a :: rest => (k.step a).bind fun k => k.run rest

def take (k : Keeper) (a : Act) : Keeper := (k.step a).getD k

def result (k : Keeper) : Except Loss Exit := k.point.result?.getD (.error .astray)

def told? (k : Keeper) : Option (Nat × Report) := k.channel.report.map fun report => (k.now, report)

end Keeper
end MissionWorker.Child
