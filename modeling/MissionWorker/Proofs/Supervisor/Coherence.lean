import MissionWorker.Proofs.Supervisor.Frame

namespace MissionWorker.Supervisor

def StartPoint.isOpen : StartPoint → Bool
  | .resolved _ | .published _ => false
  | _ => true

def StopPoint.isOpen : StopPoint → Bool
  | .cleared | .done => false
  | _ => true

/-- Of all operations of a kind the one that is told of is open, and no other. -/
def Told {α : Type} (isOpen : α → Bool) (all : List α) (told : Option Nat) : Prop :=
  ∀ op, told = some op ↔ ∃ p, all[op]? = some p ∧ isOpen p = true

namespace Told

variable {α : Type} {isOpen : α → Bool} {all : List α} {told : Option Nat} {op : Nat} {p q : α}

theorem of_open (h : Told isOpen all told) (here : all[op]? = some p) (opened : isOpen p = true) :
    told = some op := (h op).mpr ⟨p, here, opened⟩

theorem closed (h : Told isOpen all none) (here : all[op]? = some p) : isOpen p = false :=
  Bool.eq_false_iff.mpr fun opened => by simpa using h.of_open here opened

theorem set (h : Told isOpen all told) (here : all[op]? = some p) (same : isOpen q = isOpen p) :
    Told isOpen (all.set op q) told := by
  intro i
  rw [h i]
  by_cases at_ : i = op
  · subst at_
    rw [List.getElem?_set_self (List.getElem?_eq_some_iff.mp here).1, here]
    simp [same]
  · rw [List.getElem?_set_ne (Ne.symm at_)]

theorem close (h : Told isOpen all told) (here : all[op]? = some p) (opened : isOpen p = true)
    (final : isOpen q = false) : Told isOpen (all.set op q) none := by
  intro i
  by_cases at_ : i = op
  · subst at_
    simp [final, (List.getElem?_eq_some_iff.mp here).1]
  · rw [List.getElem?_set_ne (Ne.symm at_), ← h i, h.of_open here opened]
    simp [Ne.symm at_]

theorem concat (h : Told isOpen all none) (opened : isOpen p = true) :
    Told isOpen (all ++ [p]) (some all.length) := by
  intro i
  rw [List.getElem?_append]
  split
  · rename_i old
    rw [← h i]
    simp [Nat.ne_of_gt old]
  · rename_i new
    simp only [Option.some.injEq, List.getElem?_singleton]
    constructor
    · rintro rfl
      exact ⟨p, by simp, opened⟩
    · rintro ⟨q, at_, _⟩
      split at at_
      · omega
      · cases at_

theorem set_cases (h : Told isOpen all told) (here : all[op]? = some p) (opened : isOpen p = true)
    {i : Nat} {r : α} (there : (all.set op q)[i]? = some r) :
    (i = op ∧ r = q) ∨ isOpen r = false := by
  by_cases at_ : i = op
  · subst at_
    rw [List.getElem?_set_self (List.getElem?_eq_some_iff.mp here).1] at there
    exact .inl ⟨rfl, (Option.some.inj there).symm⟩
  · rw [List.getElem?_set_ne (Ne.symm at_)] at there
    refine .inr (Bool.eq_false_iff.mpr fun also => at_ ?_)
    exact Option.some.inj ((h.of_open there also).symm.trans (h.of_open here opened))

end Told

theorem State.register_of_none {s : State} {op w : Nat} (gone : s.lifecycle.live = none) :
    s.register op w =
      let live : Live := { generation := s.lifecycle.nextGeneration, worker := w }
      { s with
        lifecycle := { s.lifecycle with
          live := some live, nextGeneration := s.lifecycle.nextGeneration + 1 }
        monitors := s.monitors ++ [{ live }]
        starts := s.starts.set op (.polling live 1) } := by
  simp [register, releaseAny, gone, setStart]

structure Live.IsLatest (live : Live) (workers : Nat) : Prop where
  generation : live.generation = workers
  worker : live.worker + 1 = workers

def StartPoint.Fits (p : StartPoint) (live : Option Live) (next workers : Nat) : Prop :=
  match p with
  | .created | .launching | .died | .released _ => live = none ∧ workers + 1 = next
  | .launched w => live = none ∧ workers = next ∧ w + 1 = workers
  | .polling l _ | .checking l _ | .pausing l _ => live = some l ∧ workers + 1 = next
  | .healthy l | .reconciling l | .verified l => live = some l ∧ workers + 1 = next
  | .failed _ => workers + 1 = next
  | .taken _ l | .terminating _ l => live = none ∧ workers + 1 = next ∧ l.IsLatest workers
  | .resolved _ | .published _ => True

theorem StartPoint.fits_of_closed {p : StartPoint} (closed : p.isOpen = false) {live : Option Live}
    {next workers : Nat} : p.Fits live next workers := by
  cases p <;> simp_all [isOpen, Fits]

def StopPoint.Fits (p : StopPoint) (workers : Nat) : Prop :=
  match p with
  | .created l | .terminating l => l.IsLatest workers
  | .released | .cleared | .done => True

theorem StopPoint.fits_of_closed {p : StopPoint} (closed : p.isOpen = false) {workers : Nat} :
    p.Fits workers := by
  cases p <;> simp_all [isOpen, Fits]

/-- The lifecycle tells of the operations that are open, and of the worker in use. -/
structure Coherent (s : State) : Prop where
  start_told : Told StartPoint.isOpen s.starts s.lifecycle.startOp
  stop_told : Told StopPoint.isOpen s.stops s.lifecycle.stopOp
  starting : s.lifecycle.startOp.isSome ↔ s.lifecycle.phase = .starting
  stopping : s.lifecycle.stopOp.isSome ↔ s.lifecycle.phase = .stopping
  start_fits : ∀ {op : Nat} {p : StartPoint}, s.starts[op]? = some p →
    p.Fits s.lifecycle.live s.lifecycle.nextGeneration s.workers.length
  stop_fits : ∀ {op : Nat} {p : StopPoint}, s.stops[op]? = some p → p.Fits s.workers.length
  settled : s.lifecycle.phase ≠ .starting → s.workers.length + 1 = s.lifecycle.nextGeneration ∧
    (s.lifecycle.live.isSome ↔ s.lifecycle.phase = .ready)
  latest : ∀ {live : Live}, s.lifecycle.live = some live → live.IsLatest s.workers.length
  spawned : s.spawns = s.workers.length

namespace Coherent

variable {o : Options} {s s' : State} {op : Nat} {asked : List Event}

theorem new : Coherent {} where
  start_told := by intro; simp
  stop_told := by intro; simp
  starting := by simp
  stopping := by simp
  start_fits := by simp
  stop_fits := by simp
  settled := by simp
  latest := by simp
  spawned := rfl

theorem phase_of_start (h : Coherent s) {p : StartPoint} (here : s.starts[op]? = some p)
    (opened : p.isOpen = true) : s.lifecycle.phase = .starting :=
  h.starting.mp (by simp [h.start_told.of_open here opened])

theorem phase_of_stop (h : Coherent s) {p : StopPoint} (here : s.stops[op]? = some p)
    (opened : p.isOpen = true) : s.lifecycle.phase = .stopping :=
  h.stopping.mp (by simp [h.stop_told.of_open here opened])

theorem no_start (h : Coherent s) (other : s.lifecycle.phase ≠ .starting) :
    s.lifecycle.startOp = none := by
  simpa [other] using h.starting

theorem no_stop (h : Coherent s) (other : s.lifecycle.phase ≠ .stopping) :
    s.lifecycle.stopOp = none := by
  simpa [other] using h.stopping

theorem no_live (h : Coherent s) (starting : s.lifecycle.phase ≠ .starting)
    (ready : s.lifecycle.phase ≠ .ready) : s.lifecycle.live = none := by
  simpa [ready] using (h.settled starting).2

theorem not_lost (h : Coherent s) : ¬ ((s.lifecycle.phase = .ready ∧ s.lifecycle.live = none) ∨
    (s.lifecycle.phase = .starting ∧ s.lifecycle.startOp = none) ∨
    (s.lifecycle.phase = .stopping ∧ s.lifecycle.stopOp = none)) := by
  rintro (⟨phase, missing⟩ | ⟨phase, missing⟩ | ⟨phase, missing⟩)
  · simpa [phase, missing] using (h.settled (by simp [phase])).2
  · simpa [phase, missing] using h.starting
  · simpa [phase, missing] using h.stopping

theorem advance_start (h : Coherent s) {p q : StartPoint} (here : s.starts[op]? = some p)
    (opened : p.isOpen = true) (stays : q.isOpen = true)
    (starts : s'.starts = s.starts.set op q) (stops : s'.stops = s.stops)
    (startOp : s'.lifecycle.startOp = s.lifecycle.startOp)
    (stopOp : s'.lifecycle.stopOp = s.lifecycle.stopOp)
    (phase : s'.lifecycle.phase = s.lifecycle.phase)
    (fits : q.Fits s'.lifecycle.live s'.lifecycle.nextGeneration s'.workers.length)
    (latest : ∀ {live : Live}, s'.lifecycle.live = some live → live.IsLatest s'.workers.length)
    (spawned : s'.spawns = s'.workers.length) : Coherent s' where
  start_told := by
    rw [starts, startOp]
    exact h.start_told.set here (by rw [opened, stays])
  stop_told := by
    rw [stops, stopOp]
    exact h.stop_told
  starting := by
    rw [startOp, phase]
    exact h.starting
  stopping := by
    rw [stopOp, phase]
    exact h.stopping
  start_fits := by
    intro i r there
    rw [starts] at there
    rcases h.start_told.set_cases here opened there with ⟨_, rfl⟩ | closed
    · exact fits
    · exact StartPoint.fits_of_closed closed
  stop_fits := by
    intro i r there
    have noStop : s.lifecycle.stopOp = none := h.no_stop (by simp [h.phase_of_start here opened])
    have told := h.stop_told
    rw [noStop, ← stops] at told
    exact StopPoint.fits_of_closed (told.closed there)
  settled := fun other => absurd (phase.trans (h.phase_of_start here opened)) other
  latest := latest
  spawned := spawned

theorem leave_start (h : Coherent s) {p q : StartPoint} (here : s.starts[op]? = some p)
    (opened : p.isOpen = true) (final : q.isOpen = false)
    (starts : s'.starts = s.starts.set op q) (stops : s'.stops = s.stops)
    (startOp : s'.lifecycle.startOp = none) (stopOp : s'.lifecycle.stopOp = s.lifecycle.stopOp)
    (starting : s'.lifecycle.phase ≠ .starting) (stopping : s'.lifecycle.phase ≠ .stopping)
    (workers : s'.workers = s.workers) (live : s'.lifecycle.live = s.lifecycle.live)
    (counted : s'.workers.length + 1 = s'.lifecycle.nextGeneration)
    (held : s'.lifecycle.live.isSome ↔ s'.lifecycle.phase = .ready)
    (spawned : s'.spawns = s.spawns) : Coherent s' where
  start_told := by
    rw [starts, startOp]
    exact h.start_told.close here opened final
  stop_told := by
    rw [stops, stopOp]
    exact h.stop_told
  starting := by simp [startOp, starting]
  stopping := by
    have noStop : s.lifecycle.stopOp = none := h.no_stop (by simp [h.phase_of_start here opened])
    simp [stopOp, noStop, stopping]
  start_fits := by
    intro i r there
    rw [starts] at there
    rcases h.start_told.set_cases here opened there with ⟨_, rfl⟩ | closed
    · exact StartPoint.fits_of_closed final
    · exact StartPoint.fits_of_closed closed
  stop_fits := by
    rw [stops, workers]
    exact h.stop_fits
  settled := fun _ => ⟨counted, held⟩
  latest := by
    rw [live, workers]
    exact h.latest
  spawned := by rw [spawned, workers, h.spawned]

theorem transfer (h : Coherent s) (phase : s'.lifecycle.phase = s.lifecycle.phase)
    (live : s'.lifecycle.live = s.lifecycle.live)
    (startOp : s'.lifecycle.startOp = s.lifecycle.startOp)
    (stopOp : s'.lifecycle.stopOp = s.lifecycle.stopOp)
    (next : s'.lifecycle.nextGeneration = s.lifecycle.nextGeneration)
    (starts : s'.starts = s.starts) (stops : s'.stops = s.stops)
    (workers : s'.workers.length = s.workers.length) (spawns : s'.spawns = s.spawns) :
    Coherent s' := by
  constructor
  · rw [starts, startOp]
    exact h.start_told
  · rw [stops, stopOp]
    exact h.stop_told
  · rw [startOp, phase]
    exact h.starting
  · rw [stopOp, phase]
    exact h.stopping
  · rw [starts, live, next, workers]
    exact h.start_fits
  · rw [stops, workers]
    exact h.stop_fits
  · rw [phase, workers, next, live]
    exact h.settled
  · rw [live, workers]
    exact h.latest
  · rw [spawns, workers]
    exact h.spawned

theorem publish_start (h : Coherent s) {p q : StartPoint} (here : s.starts[op]? = some p)
    (final : p.isOpen = false) (still : q.isOpen = false) : Coherent (s.setStart op q) where
  start_told := h.start_told.set here (by rw [final, still])
  stop_told := h.stop_told
  starting := h.starting
  stopping := h.stopping
  start_fits := by
    intro i r there
    rcases List.mem_or_eq_of_mem_set (List.mem_of_getElem? there) with old | rfl
    · obtain ⟨j, at_⟩ := List.mem_iff_getElem?.mp old
      exact h.start_fits at_
    · exact StartPoint.fits_of_closed still
  stop_fits := h.stop_fits
  settled := h.settled
  latest := h.latest
  spawned := h.spawned

theorem advance_stop (h : Coherent s) {p q : StopPoint} (here : s.stops[op]? = some p)
    (same : q.isOpen = p.isOpen) (fits : q.Fits s.workers.length) :
    Coherent (s.setStop op q) where
  start_told := h.start_told
  stop_told := h.stop_told.set here same
  starting := h.starting
  stopping := h.stopping
  start_fits := h.start_fits
  stop_fits := by
    intro i r there
    rcases List.mem_or_eq_of_mem_set (List.mem_of_getElem? there) with old | rfl
    · obtain ⟨j, at_⟩ := List.mem_iff_getElem?.mp old
      exact h.stop_fits at_
    · exact fits
  settled := h.settled
  latest := h.latest
  spawned := h.spawned

theorem leave_stop (h : Coherent s) {p q : StopPoint} (here : s.stops[op]? = some p)
    (opened : p.isOpen = true) (final : q.isOpen = false) : Coherent (s.halted.setStop op q) := by
  have stopping := h.phase_of_stop here opened
  have counted := h.settled (by simp [stopping])
  have idle : s.lifecycle.startOp = none := h.no_start (by simp [stopping])
  exact {
    start_told := h.start_told
    stop_told := h.stop_told.close here opened final
    starting := by simp [State.halted, State.setStop, idle]
    stopping := by simp [State.halted, State.setStop]
    start_fits := h.start_fits
    stop_fits := by
      intro i r there
      rcases h.stop_told.set_cases here opened there with ⟨_, rfl⟩ | closed
      · exact StopPoint.fits_of_closed final
      · exact StopPoint.fits_of_closed closed
    settled := fun _ => ⟨counted.1, by
      have gone : s.lifecycle.live = none := h.no_live (by simp [stopping]) (by simp [stopping])
      simp [State.halted, State.setStop, gone]⟩
    latest := h.latest
    spawned := h.spawned }

theorem create (h : Coherent s) (idle : s.lifecycle.phase = .idle) : Coherent s.create := by
  have counted := h.settled (by simp [idle])
  have gone : s.lifecycle.live = none := h.no_live (by simp [idle]) (by simp [idle])
  have told := h.start_told
  rw [h.no_start (by simp [idle])] at told
  have noStop : s.lifecycle.stopOp = none := h.no_stop (by simp [idle])
  exact {
    start_told := told.concat rfl
    stop_told := h.stop_told
    starting := by simp [State.create]
    stopping := by simp [State.create, noStop]
    start_fits := by
      intro i r there
      rcases List.mem_append.mp (List.mem_of_getElem? there) with old | new
      · obtain ⟨j, at_⟩ := List.mem_iff_getElem?.mp old
        exact h.start_fits at_
      · rw [List.mem_singleton.mp new]
        exact ⟨gone, counted.1⟩
    stop_fits := h.stop_fits
    settled := by simp [State.create]
    latest := h.latest
    spawned := h.spawned }

theorem divert (h : Coherent s) {live : Live} (ready : s.lifecycle.phase = .ready)
    (held : s.lifecycle.live = some live) : Coherent (s.divert live) := by
  have counted := h.settled (by simp [ready])
  have noStart : s.lifecycle.startOp = none := h.no_start (by simp [ready])
  have told := h.stop_told
  rw [h.no_stop (by simp [ready])] at told
  exact {
    start_told := h.start_told
    stop_told := told.concat rfl
    starting := by simp [State.divert, noStart]
    stopping := by simp [State.divert]
    start_fits := by
      intro i r there
      have starts := h.start_told
      rw [noStart] at starts
      exact StartPoint.fits_of_closed (starts.closed there)
    stop_fits := by
      intro i r there
      rcases List.mem_append.mp (List.mem_of_getElem? there) with old | new
      · obtain ⟨j, at_⟩ := List.mem_iff_getElem?.mp old
        exact h.stop_fits at_
      · rw [List.mem_singleton.mp new]
        exact h.latest held
    settled := fun _ => ⟨counted.1, by simp [State.divert]⟩
    latest := by simp [State.divert]
    spawned := h.spawned }

theorem demote (h : Coherent s) (ready : s.lifecycle.phase = .ready) : Coherent s.demoted := by
  have counted := h.settled (by simp [ready])
  have noStart : s.lifecycle.startOp = none := h.no_start (by simp [ready])
  have noStop : s.lifecycle.stopOp = none := h.no_stop (by simp [ready])
  exact {
    start_told := h.start_told
    stop_told := h.stop_told
    starting := by simp [State.demoted, noStart]
    stopping := by simp [State.demoted, noStop]
    start_fits := by
      intro i r there
      have starts := h.start_told
      rw [noStart] at starts
      exact StartPoint.fits_of_closed (starts.closed there)
    stop_fits := h.stop_fits
    settled := fun _ => ⟨counted.1, by simp [State.demoted]⟩
    latest := by simp [State.demoted]
    spawned := h.spawned }

end Coherent

namespace StartPoint

theorem isOpen_of_watched {p : StartPoint} {live : Live} (watched : p.watched? = some live) :
    p.isOpen = true := by
  cases p <;> simp_all [watched?, isOpen]

theorem fits_of_watched {p : StartPoint} {l : Live} (watched : p.watched? = some l)
    {live : Option Live} {next workers : Nat} :
    p.Fits live next workers ↔ live = some l ∧ workers + 1 = next := by
  cases p <;> simp_all [watched?, Fits]

end StartPoint

theorem StartPoint.Leads.isOpen {p p' : StartPoint} (leads : p.Leads p')
    (opened : p'.isOpen = true) : p.isOpen = true := by
  cases leads with
  | watch watched | fail watched => exact isOpen_of_watched watched
  | publish => cases opened
  | _ => rfl

theorem StopPoint.Leads.isOpen {p p' : StopPoint} (leads : p.Leads p')
    (opened : p'.isOpen = true) : p.isOpen = true := by
  cases leads with
  | publish => cases opened
  | _ => rfl

namespace Coherent

variable {o : Options} {s s' : State} {op : Nat} {asked : List Event}

theorem advance_alone (h : Coherent s) {p q : StartPoint} (here : s.starts[op]? = some p)
    (opened : p.isOpen = true) (stays : q.isOpen = true)
    (starts : s'.starts = s.starts.set op q) (stops : s'.stops = s.stops)
    (lifecycle : s'.lifecycle = s.lifecycle) (workers : s'.workers.length = s.workers.length)
    (spawns : s'.spawns = s.spawns)
    (fits : q.Fits s.lifecycle.live s.lifecycle.nextGeneration s.workers.length) :
    Coherent s' := by
  refine h.advance_start here opened stays starts stops ?_ ?_ ?_ ?_ ?_ ?_
  · rw [lifecycle]
  · rw [lifecycle]
  · rw [lifecycle]
  · rw [lifecycle, workers]
    exact fits
  · rw [lifecycle, workers]
    exact h.latest
  · rw [spawns, workers, h.spawned]

theorem spawn (h : Coherent s) (here : s.starts[op]? = some .launching) (pid : Option Nat) :
    Coherent (s.spawned op pid) := by
  obtain ⟨gone, counted⟩ := h.start_fits here
  refine h.advance_start here rfl rfl rfl rfl rfl rfl rfl ?_ ?_ ?_
  · simpa [StartPoint.Fits, State.spawned, State.setStart, gone] using counted
  · simp [State.spawned, State.setStart, gone]
  · simp [State.spawned, State.setStart, h.spawned]

theorem register (h : Coherent s) {w : Nat} (here : s.starts[op]? = some (.launched w)) :
    Coherent (s.register op w) := by
  obtain ⟨gone, counted, last⟩ := h.start_fits here
  let live : Live := { generation := s.lifecycle.nextGeneration, worker := w }
  have latest : live.IsLatest s.workers.length := ⟨counted.symm, last⟩
  rw [State.register_of_none gone]
  refine h.advance_start here (q := .polling live 1) rfl rfl rfl rfl rfl rfl rfl ?_ ?_ h.spawned
  · exact ⟨rfl, congrArg (· + 1) counted⟩
  · rintro other ⟨⟩
    exact latest

theorem watch (h : Coherent s) {p p' : StartPoint} {a : StartAct} (here : s.starts[op]? = some p)
    (move : WatchMove o s op p a p' asked) : Coherent (s.setStart op p') := by
  obtain ⟨live, watched, moved⟩ := move.watched
  have both := (StartPoint.fits_of_watched watched).mp (h.start_fits here)
  have opened := StartPoint.isOpen_of_watched watched
  rcases moved with still | ⟨e, rfl, _⟩
  · exact h.advance_alone here opened (StartPoint.isOpen_of_watched still) rfl rfl rfl rfl rfl
      ((StartPoint.fits_of_watched still).mpr both)
  · exact h.advance_alone here opened rfl rfl rfl rfl rfl rfl both.2

theorem start_move (h : Coherent s) {p : StartPoint} {a : StartAct}
    (here : s.starts[op]? = some p) (move : StartMove o s op p a s' asked) : Coherent s' := by
  have fits := h.start_fits here
  cases move with
  | call | breakDown => exact h.advance_alone here rfl rfl rfl rfl rfl rfl rfl fits
  | refuse e => exact h.advance_alone here rfl rfl rfl rfl rfl rfl rfl fits.2
  | spawn pid => exact h.spawn here pid
  | register w => exact h.register here
  | watch move => exact h.watch here move
  | promote admitting held same alive =>
    refine h.leave_start here rfl rfl rfl rfl rfl rfl (by simp [State.readied, State.setStart])
      (by simp [State.readied, State.setStart]) rfl rfl fits.2 ?_ rfl
    simp [State.readied, State.setStart, held]
  | take held =>
    refine h.advance_start here rfl rfl rfl rfl rfl rfl rfl ?_ ?_ h.spawned
    · exact ⟨rfl, fits, h.latest held⟩
    · intro live gone
      cases gone
  | miss missing => exact h.advance_alone here rfl rfl rfl rfl rfl rfl rfl ⟨missing, fits⟩
  | terminate alive =>
    exact h.advance_alone here rfl rfl rfl rfl rfl State.onWorker_length rfl fits
  | spare final | ended final | outlast =>
    exact h.advance_alone here rfl rfl rfl rfl rfl State.onWorker_length rfl ⟨fits.1, fits.2.1⟩
  | abandon =>
    refine h.leave_start here rfl rfl rfl rfl rfl rfl (by simp [State.abandoned, State.setStart])
      (by simp [State.abandoned, State.setStart]) rfl rfl fits.2 ?_ rfl
    simp [State.abandoned, State.setStart, fits.1]
  | publish => exact h.publish_start here rfl rfl

theorem stop_move (h : Coherent s) {p : StopPoint} {a : StopAct}
    (here : s.stops[op]? = some p) (move : StopMove o s op p a s' asked) : Coherent s' := by
  have fits := h.stop_fits here
  cases move with
  | terminate alive =>
    exact (h.advance_stop here (q := .terminating _) rfl fits).transfer rfl rfl rfl rfl rfl rfl rfl
      State.onWorker_length rfl
  | spare final | ended final | outlast =>
    exact (h.advance_stop here (q := .released) rfl trivial).transfer rfl rfl rfl rfl rfl rfl rfl
      State.onWorker_length rfl
  | clear => exact h.leave_stop here rfl rfl
  | publish => exact h.advance_stop here (q := .done) rfl trivial

theorem caller_move (h : Coherent s) {i : Nat} {c c' : Caller} {a : CallerAct}
    (move : CallerMove o s i c a s' c' asked) : Coherent s' := by
  cases move with
  | create here admitting idle => exact h.create idle
  | @restart live here ready held =>
    have counted : Coherent (s.count live.generation) := h.transfer rfl rfl rfl rfl rfl rfl rfl rfl rfl
    exact counted.divert ready held
  | halt here ready held => exact h.divert ready held
  | haltEmpty here ready missing => exact absurd (.inl ⟨ready, missing⟩) h.not_lost
  | restartEnded | announce | cancel => exact h.transfer rfl rfl rfl rfl rfl rfl rfl rfl rfl
  | _ => exact h

theorem step (h : Coherent s) {l : Label} (taken : s.step o l = some (s', asked)) :
    Coherent s' := by
  cases State.step_move taken with
  | enter job => exact h.transfer rfl rfl rfl rfl rfl rfl rfl rfl rfl
  | start here move => exact h.start_move here move
  | stop here move => exact h.stop_move here move
  | monitor here pending ended move =>
    cases move with
    | pass => exact h.transfer rfl rfl rfl rfl rfl rfl rfl rfl rfl
    | demote held same ready =>
      exact (h.demote ready).transfer rfl rfl rfl rfl rfl rfl rfl (List.length_modify ..) rfl
  | caller here move => exact (h.caller_move move).transfer rfl rfl rfl rfl rfl rfl rfl rfl rfl
  | worker here held move =>
    exact h.transfer rfl rfl rfl rfl rfl rfl rfl (List.length_set ..) rfl

end Coherent

theorem Reachable.coherent {o : Options} {s : State} (reachable : Reachable o s) : Coherent s := by
  induction reachable using Reachable.induction with
  | new => exact .new
  | kept _ h taken => exact h.step taken

end MissionWorker.Supervisor
