import MissionWorker.Supervisor.Step
import MissionWorker.Supervisor.Task

namespace MissionWorker.Supervisor.Scenario

inductive Ending where
  | exit (e : Child.Exit)
  | lost
  deriving DecidableEq

/-- How a process plays its part: when it ends by itself, if it does, and how long after a polite
request, if it cares. -/
structure ProcessPart where
  pid : Option Nat
  endsAfter : Option Nat
  ending : Ending
  onRequest : Option (Nat × Child.Exit)

inductive LaunchPart where
  | runs (p : ProcessPart)
  | fails (e : Launch.Error)
  | breaksDown

structure CallPart where
  after : Option Nat
  answer : Except Bridge.Error Json

/-- The parts that the world plays, by the number of the launch, of the check, and of the call to an
endpoint with a payload or without. -/
structure Script where
  options : Options
  launch : Nat → Nat × LaunchPart
  check : Nat → Probe.Check
  call : String → Option Json → Nat → CallPart

inductive Record where
  | launch
  | health (n : Nat)
  | call (endpoint : String) (payload : Option Json) (phase : Phase)
  | terminate (pid : Option Nat) (mode : Child.Termination)
  | exit (pid : Option Nat) (ending : Ending)

inductive Happening where
  | step (l : Label)
  | launched (op : Nat) (part : LaunchPart)
  | ends (worker : Nat)
  | leaves (worker : Nat) (exit : Child.Exit)

structure Actor where
  part : ProcessPart
  leaving : Bool := false
  ended : Bool := false

structure World where
  now : Nat := 0
  state : State := {}
  urgent : List Happening := []
  agenda : List (Nat × Happening) := []
  actors : List Actor := []
  launches : Nat := 0
  checks : Nat := 0
  calls : List (String × Nat) := []
  log : List (Nat × Record) := []
  returns : List (Nat × Nat) := []

namespace World

def note (w : World) (r : Record) : World := { w with log := w.log ++ [(w.now, r)] }

/-- The agenda with one more entry, after all of the same time. -/
def insert (time : Nat) (h : Happening) : List (Nat × Happening) → List (Nat × Happening)
  | [] => [(time, h)]
  | (t, g) :: rest => if time < t then (time, h) :: (t, g) :: rest else (t, g) :: insert time h rest

def arrange (w : World) (delay : Nat) (h : Happening) : World :=
  { w with agenda := insert (w.now + delay) h w.agenda }

def arrangeAfter (w : World) (delay : Option Nat) (h : Happening) : World :=
  match delay with
  | none => w
  | some 0 => { w with urgent := w.urgent ++ [h] }
  | some d => w.arrange d h

def countCall (w : World) (endpoint : String) : Nat × World :=
  let n := (w.calls.lookup endpoint).getD 0
  (n, { w with calls := (endpoint, n + 1) :: w.calls.filter (·.1 != endpoint) })

def onActor (w : World) (i : Nat) (f : Actor → Actor) : World :=
  { w with actors := w.actors.modify i f }

def heeds (w : World) (i : Nat) : Bool := w.actors[i]?.any fun a => !a.ended && !a.leaving

def call (w : World) (script : Script) (endpoint : String) (payload : Option Json)
    (back : Except Bridge.Error Json → Label) : World :=
  let w := w.note (.call endpoint payload w.state.lifecycle.phase)
  let (n, w) := w.countCall endpoint
  let part := script.call endpoint payload n
  w.arrangeAfter part.after (.step (back part.answer))

def finish (w : World) (i : Nat) (ending : Ending) : World :=
  match w.actors[i]? with
  | none => w
  | some a =>
    if a.ended then w
    else
      let w := (w.onActor i fun a => { a with ended := true }).note (.exit a.part.pid ending)
      let act : WorkerAct := match ending with
        | .exit e => .report e
        | .lost => .vanish
      match w.state.workers[i]?.bind fun c => w.state.stepWorker i c act with
      | some (state, _) => { w with state }
      | none => w

def heed (w : World) (i : Nat) (mode : Child.Termination) : World :=
  match mode, w.actors[i]? with
  | _, none => w
  | .force, some _ => w.finish i (.exit (.signal 9))
  | .graceful _, some a =>
    match a.part.onRequest with
    | none => w
    | some (0, exit) => w.finish i (.exit exit)
    | some (delay, exit) =>
      (w.onActor i fun a => { a with leaving := true }).arrange delay (.leaves i exit)

def answer (script : Script) (w : World) : Event → World
  | .launch op =>
    let (delay, part) := script.launch w.launches
    ({ w with launches := w.launches + 1 }.note .launch).arrangeAfter (some delay) (.launched op part)
  | .check op =>
    let part := script.check w.checks
    let w := { w with checks := w.checks + 1 }
    (w.note (.health w.checks)).arrangeAfter part.after (.step (.start op (.checkReturned part.healthy)))
  | .pause op => w.arrangeAfter (some script.options.probe.interval) (.step (.start op .pauseOver))
  | .reconcile op =>
    w.call script Service.Endpoint.boundaryCache (some (.object [])) fun r =>
      .start op (.reconcileReturned r)
  | .call i endpoint payload => w.call script endpoint payload fun r => .caller i (.callReturned r)
  | .awaitEnd op => w.arrange script.options.stopTimeout (.step (.start op .timeUp))
  | .awaitStop op => w.arrange script.options.stopTimeout (.step (.stop op .timeUp))
  | .terminate _ _ | .outlasted _ => w
  | .received i mode =>
    (w.note (.terminate (w.actors[i]?.bind (·.part.pid)) mode)).heed i mode

def noteReturn (w : World) : Label → World
  | .caller i _ =>
    match w.state.callers[i]? with
    | some { point := .returned _, .. } => { w with returns := (i, w.now) :: w.returns }
    | _ => w
  | _ => w

def take? (w : World) (script : Script) (l : Label) : Option World :=
  (w.state.step script.options l).map fun (state, asked) =>
    asked.foldl (answer script) ({ w with state }.noteReturn l)

def take (w : World) (script : Script) (l : Label) : World := (w.take? script l).getD w

/-- The steps that the supervisor may take by itself; the first possible one is taken, so workers go
before starts, these before stops, monitors and callers, and the older before the younger. -/
def inclinations (w : World) : List Label :=
  let s := w.state
  ((List.range s.workers.length).filter w.heeds).map (Label.worker · .receive) ++
    (List.range s.starts.length).flatMap (fun op =>
      [.start op .act, .start op .noticeEnd, .start op .noticeCancel]) ++
    (List.range s.stops.length).flatMap (fun op => [.stop op .act, .stop op .noticeEnd]) ++
    (List.range s.monitors.length).map .monitor ++
    (List.range s.callers.length).map (Label.caller · .act)

def happen (w : World) (script : Script) : Happening → World
  | .step l => w.take script l
  | .launched op (.fails e) => w.take script (.start op (.launchReturned (.error e)))
  | .launched op .breaksDown => w.take script (.start op .breakDown)
  | .launched op (.runs part) =>
    let i := w.actors.length
    let w := { w with actors := w.actors ++ [({ part } : Actor)] }
    let w := match part.endsAfter with
      | some delay => w.arrange delay (.ends i)
      | none => w
    w.take script (.start op (.launchReturned (.ok part.pid)))
  | .ends i =>
    match w.actors[i]? with
    | some a => if a.leaving then w else w.finish i a.part.ending
    | none => w
  | .leaves i exit => w.finish i (.exit exit)

/-- Lets time pass until nothing more is due and `done` holds, or up to the deadline. Whether `done`
came to hold is told with the world. -/
def drive (script : Script) (done : World → Bool) (deadline : Nat) : (fuel : Nat) → World → Bool × World
  | 0, w => (false, w)
  | fuel + 1, w =>
    match w.urgent with
    | h :: urgent => drive script done deadline fuel ({ w with urgent }.happen script h)
    | [] =>
      match w.inclinations.findSome? (w.take? script) with
      | some w => drive script done deadline fuel w
      | none =>
        match w.agenda with
        | [] => if done w then (true, w) else (false, { w with now := deadline })
        | (time, h) :: agenda =>
          if time > w.now && done w then (true, w)
          else if time > deadline then (false, { w with now := deadline })
          else
            drive script done deadline fuel
              ({ w with agenda, now := max w.now time }.happen script h)

def enough : Nat := 100000000

def settle (w : World) (script : Script) : World := (w.drive script (fun _ => true) w.now enough).2

def patience : Nat := 3600000

def returned? (w : World) (i : Nat) : Option Result :=
  match w.state.callers[i]? with
  | some { point := .returned r, .. } => some r
  | _ => none

end World

inductive Step where
  | run (t : Task)
  | spawn (name : String) (t : Task)
  | join (name : String)
  | abort (name : String)
  | advance (ms : Nat)
  | crash (ending : Ending)
  | look

inductive Answer where
  | nothing
  | result (t : Task) (r : Result)
  | joined (t : Task) (r : Result) (doneAt : Nat)
  | spawned (name : String)
  | pending
  | aborted
  | unknown
  | alive (b : Bool)

structure Background where
  name : String
  task : Task
  progress : Nat × Except Result Nat
  aborted : Bool := false

structure Stage where
  world : World := {}
  background : List Background := []

namespace Stage

def begin (script : Script) (w : World) (t : Task) : (Nat × Except Result Nat) × World :=
  match t.job with
  | .error failure => ((w.now, .error (.error (.domain failure))), w)
  | .ok job =>
    let i := w.state.callers.length
    ((w.now, .ok i), w.take script (.enter job))

def await (script : Script) (w : World) (i : Nat) : Option Result × World :=
  let (_, w) := w.drive script (fun w => (w.returned? i).isSome) (w.now + World.patience) World.enough
  (w.returned? i, w)

def perform (script : Script) (g : Stage) : Step → Answer × Stage
  | .run t =>
    match begin script g.world t with
    | ((_, .error r), w) => (.result t r, { g with world := w.settle script })
    | ((_, .ok i), w) =>
      match await script w i with
      | (some r, w) => (.result t (t.result r), { g with world := w })
      | (none, w) =>
        (.pending, { g with world := (w.take script (.caller i .drop)).settle script })
  | .spawn name task =>
    let (progress, w) := begin script g.world task
    (.spawned name, {
      world := w.settle script
      background := { name, task, progress } :: g.background.filter (·.name != name) })
  | .join name =>
    match g.background.find? (·.name == name) with
    | none => (.unknown, g)
    | some b =>
      let g := { g with background := g.background.filter (·.name != name) }
      let joined (i : Nat) (w : World) (r : Result) : Answer :=
        .joined b.task (b.task.result r) ((w.returns.lookup i).getD w.now)
      match b.progress with
      | (time, .error r) => (.joined b.task r time, { g with world := g.world.settle script })
      | (_, .ok i) =>
        if b.aborted then
          (((g.world.returned? i).map (joined i g.world)).getD .aborted,
            { g with world := g.world.settle script })
        else
          let (r, w) := await script g.world i
          ((r.map (joined i w)).getD .pending, { g with world := w })
  | .abort name =>
    match g.background.find? (·.name == name) with
    | none => (.unknown, g)
    | some b =>
      let w := match b.progress.2 with
        | .ok i => g.world.take script (.caller i .drop)
        | .error _ => g.world
      (.aborted, {
        world := w.settle script
        background := g.background.map fun c =>
          if c.name == name then { c with aborted := true } else c })
  | .advance ms =>
    (.nothing, { g with world :=
      (g.world.drive script (fun _ => false) (g.world.now + ms) World.enough).2 })
  | .crash ending =>
    let i := g.world.actors.length - 1
    let alive := g.world.actors[i]?.any (!·.ended)
    (.alive alive, { g with world := (g.world.finish i ending).settle script })
  | .look => (.nothing, { g with world := g.world.settle script })

structure View where
  answer : Answer
  world : World
  news : List (Nat × Record)

def performAll (script : Script) (g : Stage) : List Step → List View
  | [] => []
  | step :: rest =>
    let (answer, next) := g.perform script step
    { answer, world := next.world, news := next.world.log.drop g.world.log.length } ::
      next.performAll script rest

end Stage
end MissionWorker.Supervisor.Scenario
