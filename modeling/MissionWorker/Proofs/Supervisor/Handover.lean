import MissionWorker.Proofs.Supervisor.Monitoring

namespace MissionWorker.Supervisor

def StartPoint.held? : StartPoint → Option (Nat × Bool)
  | .launched worker => some (worker, false)
  | .taken _ live => some (live.worker, false)
  | .terminating _ live => some (live.worker, true)
  | _ => none

def StopPoint.held? : StopPoint → Option (Nat × Bool)
  | .created live => some (live.worker, false)
  | .terminating live => some (live.worker, true)
  | _ => none

/-- A part of the supervisor that may hold a handle. -/
inductive Keeper where
  | start (op : Nat)
  | lifecycle
  | stop (op : Nat)

def State.held? (s : State) : Keeper → Option (Nat × Bool)
  | .start op => s.starts[op]?.bind StartPoint.held?
  | .lifecycle => s.lifecycle.live.map fun live => (live.worker, false)
  | .stop op => s.stops[op]?.bind StopPoint.held?

/-- Some part holds the handle of a worker, and was the one to ask it to end, or has not done so. -/
def State.Holds (s : State) (handle : Nat × Bool) : Prop := ∃ k, s.held? k = some handle

variable {o : Options} {s s' : State} {op : Nat} {l : Label} {more : List Event}
  {handle : Nat × Bool}

theorem StartPoint.held?_of_closed {p : StartPoint} (closed : p.isOpen = false) : p.held? = none := by
  cases p <;> simp_all [isOpen, held?]

theorem StopPoint.held?_of_closed {p : StopPoint} (closed : p.isOpen = false) : p.held? = none := by
  cases p <;> simp_all [isOpen, held?]

theorem StartPoint.held?_of_watched {p : StartPoint} {live : Live} (watched : p.watched? = some live) :
    p.held? = none := by
  cases p <;> simp_all [watched?, held?]

theorem StartPoint.Fits.gone {p : StartPoint} {live : Option Live} {next workers : Nat}
    (fits : p.Fits live next workers) (held : p.held? = some handle) : live = none := by
  cases p with
  | launched | taken | terminating => exact fits.1
  | _ => cases held

namespace State

theorem held?_set_start {p q : StartPoint} (here : s.starts[op]? = some p) (same : q.held? = p.held?)
    (starts : s'.starts = s.starts.set op q) (stops : s'.stops = s.stops)
    (live : s'.lifecycle.live = s.lifecycle.live) (k : Keeper) : s'.held? k = s.held? k := by
  cases k with
  | start other =>
    by_cases at_ : op = other
    · subst at_
      have bound := (List.getElem?_eq_some_iff.mp here).1
      simp only [held?, starts, List.getElem?_set_self bound, here, Option.bind_some, same]
    · simp only [held?, starts, List.getElem?_set_ne at_]
  | lifecycle => simp only [held?, live]
  | stop other => simp only [held?, stops]

theorem held?_set_stop {p q : StopPoint} (here : s.stops[op]? = some p) (same : q.held? = p.held?)
    (starts : s'.starts = s.starts) (stops : s'.stops = s.stops.set op q)
    (live : s'.lifecycle.live = s.lifecycle.live) (k : Keeper) : s'.held? k = s.held? k := by
  cases k with
  | start other => simp only [held?, starts]
  | lifecycle => simp only [held?, live]
  | stop other =>
    by_cases at_ : op = other
    · subst at_
      have bound := (List.getElem?_eq_some_iff.mp here).1
      simp only [held?, stops, List.getElem?_set_self bound, here, Option.bind_some, same]
    · simp only [held?, stops, List.getElem?_set_ne at_]

theorem holds_set_start {p q : StartPoint} (here : s.starts[op]? = some p) (free : p.held? = none)
    (still : q.held? = none) (starts : s'.starts = s.starts.set op q) (stops : s'.stops = s.stops)
    (live : s'.lifecycle.live = s.lifecycle.live) : s'.Holds handle ↔ s.Holds handle := by
  have same := held?_set_start here (by rw [free, still]) starts stops live
  simp only [Holds, same]

theorem holds_set_stop {p q : StopPoint} (here : s.stops[op]? = some p) (free : p.held? = none)
    (still : q.held? = none) (starts : s'.starts = s.starts) (stops : s'.stops = s.stops.set op q)
    (live : s'.lifecycle.live = s.lifecycle.live) : s'.Holds handle ↔ s.Holds handle := by
  have same := held?_set_stop here (by rw [free, still]) starts stops live
  simp only [Holds, same]

theorem holds_without {held : Option (Nat × Bool)} (gone : s.lifecycle.live = none)
    (holds : s.Holds handle ↔ held = some handle ∨ s.held? .lifecycle = some handle) :
    s.Holds handle ↔ held = some handle := by
  rw [holds]
  simp [held?, gone]

theorem held?_create (k : Keeper) : s.create.held? k = s.held? k := by
  cases k with
  | start other =>
    simp only [held?, create]
    by_cases old : other < s.starts.length
    · rw [List.getElem?_append_left old]
    · rw [List.getElem?_append_right (by omega), List.getElem?_eq_none (by omega : s.starts.length ≤ other),
        List.getElem?_singleton]
      split <;> rfl
  | lifecycle | stop => rfl

end State

namespace Coherent

theorem holds_of_start (h : Coherent s) {p q : StartPoint} (here : s.starts[op]? = some p)
    (opened : p.isOpen = true) (starts : s'.starts = s.starts.set op q) (stops : s'.stops = s.stops) :
    s'.Holds handle ↔ q.held? = some handle ∨ s'.held? .lifecycle = some handle := by
  constructor
  · rintro ⟨k, held⟩
    cases k with
    | start other =>
      obtain ⟨r, there, holds⟩ := Option.bind_eq_some_iff.mp held
      rw [starts] at there
      rcases h.start_told.set_cases here opened there with ⟨_, rfl⟩ | closed
      · exact .inl holds
      · rw [StartPoint.held?_of_closed closed] at holds
        cases holds
    | lifecycle => exact .inr held
    | stop other =>
      obtain ⟨r, there, holds⟩ := Option.bind_eq_some_iff.mp held
      have told := h.stop_told
      rw [h.no_stop (by simp [h.phase_of_start here opened]), ← stops] at told
      rw [StopPoint.held?_of_closed (told.closed there)] at holds
      cases holds
  · rintro (held | held)
    · have bound := (List.getElem?_eq_some_iff.mp here).1
      exact ⟨.start op, by simp [State.held?, starts, List.getElem?_set_self bound, held]⟩
    · exact ⟨.lifecycle, held⟩

theorem holds_of_stop (h : Coherent s) {p q : StopPoint} (here : s.stops[op]? = some p)
    (opened : p.isOpen = true) (starts : s'.starts = s.starts) (stops : s'.stops = s.stops.set op q) :
    s'.Holds handle ↔ q.held? = some handle ∨ s'.held? .lifecycle = some handle := by
  constructor
  · rintro ⟨k, held⟩
    cases k with
    | start other =>
      obtain ⟨r, there, holds⟩ := Option.bind_eq_some_iff.mp held
      have told := h.start_told
      rw [h.no_start (by simp [h.phase_of_stop here opened]), ← starts] at told
      rw [StartPoint.held?_of_closed (told.closed there)] at holds
      cases holds
    | lifecycle => exact .inr held
    | stop other =>
      obtain ⟨r, there, holds⟩ := Option.bind_eq_some_iff.mp held
      rw [stops] at there
      rcases h.stop_told.set_cases here opened there with ⟨_, rfl⟩ | closed
      · exact .inl holds
      · rw [StopPoint.held?_of_closed closed] at holds
        cases holds
  · rintro (held | held)
    · have bound := (List.getElem?_eq_some_iff.mp here).1
      exact ⟨.stop op, by simp [State.held?, stops, List.getElem?_set_self bound, held]⟩
    · exact ⟨.lifecycle, held⟩

theorem holds_alone_of_start (h : Coherent s) {p q : StartPoint} (here : s.starts[op]? = some p)
    (opened : p.isOpen = true) (starts : s'.starts = s.starts.set op q) (stops : s'.stops = s.stops)
    (gone : s'.lifecycle.live = none) : s'.Holds handle ↔ q.held? = some handle :=
  State.holds_without gone (h.holds_of_start here opened starts stops)

theorem holds_none_of_start (h : Coherent s) {p q : StartPoint} (here : s.starts[op]? = some p)
    (opened : p.isOpen = true) (starts : s'.starts = s.starts.set op q) (stops : s'.stops = s.stops)
    (gone : s'.lifecycle.live = none) (bare : q.held? = none) : ¬ s'.Holds handle := by
  rw [h.holds_alone_of_start here opened starts stops gone, bare]
  intro held
  cases held

theorem live_none_of_stop (h : Coherent s) {p : StopPoint} (here : s.stops[op]? = some p)
    (opened : p.isOpen = true) : s.lifecycle.live = none := by
  have phase := h.phase_of_stop here opened
  exact h.no_live (by simp [phase]) (by simp [phase])

theorem holds_alone_of_stop (h : Coherent s) {p q : StopPoint} (here : s.stops[op]? = some p)
    (opened : p.isOpen = true) (starts : s'.starts = s.starts) (stops : s'.stops = s.stops.set op q)
    (live : s'.lifecycle.live = s.lifecycle.live) : s'.Holds handle ↔ q.held? = some handle :=
  State.holds_without (live.trans (h.live_none_of_stop here opened))
    (h.holds_of_stop here opened starts stops)

theorem holds_none_of_stop (h : Coherent s) {p q : StopPoint} (here : s.stops[op]? = some p)
    (opened : p.isOpen = true) (starts : s'.starts = s.starts) (stops : s'.stops = s.stops.set op q)
    (live : s'.lifecycle.live = s.lifecycle.live) (bare : q.held? = none) : ¬ s'.Holds handle := by
  rw [h.holds_alone_of_stop here opened starts stops live, bare]
  intro held
  cases held

theorem holds_at_start (h : Coherent s) {p : StartPoint} (here : s.starts[op]? = some p)
    (opened : p.isOpen = true) :
    s.Holds handle ↔ p.held? = some handle ∨ s.held? .lifecycle = some handle := by
  obtain ⟨bound, rfl⟩ := List.getElem?_eq_some_iff.mp here
  exact h.holds_of_start here opened (List.set_getElem_self bound).symm rfl

theorem holds_at_stop (h : Coherent s) {p : StopPoint} (here : s.stops[op]? = some p)
    (opened : p.isOpen = true) :
    s.Holds handle ↔ p.held? = some handle ∨ s.held? .lifecycle = some handle := by
  obtain ⟨bound, rfl⟩ := List.getElem?_eq_some_iff.mp here
  exact h.holds_of_stop here opened rfl (List.set_getElem_self bound).symm

theorem keeper_start (h : Coherent s) (held : s.held? (.start op) = some handle) :
    s.lifecycle.phase = .starting ∧ s.lifecycle.startOp = some op ∧ s.lifecycle.live = none := by
  obtain ⟨p, here, holds⟩ := Option.bind_eq_some_iff.mp held
  have opened : p.isOpen = true := by
    refine Bool.of_not_eq_false fun closed => ?_
    rw [StartPoint.held?_of_closed closed] at holds
    cases holds
  exact ⟨h.phase_of_start here opened, h.start_told.of_open here opened, (h.start_fits here).gone holds⟩

theorem keeper_stop (h : Coherent s) (held : s.held? (.stop op) = some handle) :
    s.lifecycle.phase = .stopping ∧ s.lifecycle.stopOp = some op ∧ s.lifecycle.live = none := by
  obtain ⟨p, here, holds⟩ := Option.bind_eq_some_iff.mp held
  have opened : p.isOpen = true := by
    refine Bool.of_not_eq_false fun closed => ?_
    rw [StopPoint.held?_of_closed closed] at holds
    cases holds
  have phase := h.phase_of_stop here opened
  exact ⟨phase, h.stop_told.of_open here opened, h.no_live (by simp [phase]) (by simp [phase])⟩

theorem keeper_unique (h : Coherent s) {k k' : Keeper} {other : Nat × Bool}
    (held : s.held? k = some handle) (also : s.held? k' = some other) : k' = k ∧ other = handle := by
  suffices same : k' = k by
    subst same
    exact ⟨rfl, Option.some.inj (also.symm.trans held)⟩
  have live_of {x : Nat × Bool} (kept : s.held? .lifecycle = some x) : s.lifecycle.live ≠ none := by
    intro none
    simp [State.held?, none] at kept
  cases k with
  | start op =>
    obtain ⟨phase, told, gone⟩ := h.keeper_start held
    cases k' with
    | start op' =>
      obtain ⟨_, told', _⟩ := h.keeper_start also
      rw [Option.some.inj (told'.symm.trans told)]
    | lifecycle => exact absurd gone (live_of also)
    | stop op' =>
      obtain ⟨phase', _, _⟩ := h.keeper_stop also
      cases phase.symm.trans phase'
  | lifecycle =>
    cases k' with
    | start op' => exact absurd (h.keeper_start also).2.2 (live_of held)
    | lifecycle => rfl
    | stop op' => exact absurd (h.keeper_stop also).2.2 (live_of held)
  | stop op =>
    obtain ⟨phase, told, gone⟩ := h.keeper_stop held
    cases k' with
    | start op' =>
      obtain ⟨phase', _, _⟩ := h.keeper_start also
      cases phase.symm.trans phase'
    | lifecycle => exact absurd gone (live_of also)
    | stop op' =>
      obtain ⟨_, told', _⟩ := h.keeper_stop also
      rw [Option.some.inj (told'.symm.trans told)]

end Coherent

theorem Coherent.holds_iff (h : Coherent s) {k : Keeper} (held : s.held? k = some handle)
    (other : Nat × Bool) : s.Holds other ↔ other = handle := by
  constructor
  · rintro ⟨k', also⟩
    exact (h.keeper_unique held also).2
  · rintro rfl
    exact ⟨k, held⟩

theorem Coherent.holds_unique (h : Coherent s) {other : Nat × Bool} (held : s.Holds handle)
    (also : s.Holds other) : other = handle := by
  obtain ⟨k, held⟩ := held
  exact (h.holds_iff held other).mp also

theorem Coherent.holds_of_idle (h : Coherent s) (idle : s.lifecycle.phase = .idle)
    (handle : Nat × Bool) : ¬ s.Holds handle := by
  rintro ⟨k, held⟩
  cases k with
  | start op => simpa [idle] using (h.keeper_start held).1
  | lifecycle =>
    have gone := h.no_live (by simp [idle]) (by simp [idle])
    simp [State.held?, gone] at held
  | stop op => simpa [idle] using (h.keeper_stop held).1

def Event.isFarewell : Event → Bool
  | .terminate _ _ | .outlasted _ => true
  | _ => false

/-- What a step does with handles. -/
inductive Handover (o : Options) (s s' : State) : List Event → Prop where
  | still {more : List Event} (same : ∀ handle, s'.Holds handle ↔ s.Holds handle)
    (workers : s'.workers.length = s.workers.length) (quiet : ∀ e ∈ more, e.isFarewell = false) :
    Handover o s s' more
  | spawn (before : ∀ handle, ¬ s.Holds handle)
    (after : ∀ handle, s'.Holds handle ↔ handle = (s.workers.length, false))
    (workers : s'.workers.length = s.workers.length + 1) : Handover o s s' []
  | ask {w : Nat} {e : Event} (before : s.Holds (w, false))
    (after : ∀ handle, s'.Holds handle ↔ handle = (w, true))
    (workers : s'.workers.length = s.workers.length) (quiet : e.isFarewell = false) :
    Handover o s s' [.terminate w (.graceful o.stopTimeout), e]
  | letGo {w : Nat} {asked : Bool} (before : s.Holds (w, asked)) (after : ∀ handle, ¬ s'.Holds handle)
    (ended : s.hasEnded w = true) (workers : s'.workers.length = s.workers.length) :
    Handover o s s' []
  | outlast {w : Nat} (before : s.Holds (w, true)) (after : ∀ handle, ¬ s'.Holds handle)
    (workers : s'.workers.length = s.workers.length) : Handover o s s' [.outlasted w]

namespace Coherent

theorem watch_handover {p p' : StartPoint} {a : StartAct} (here : s.starts[op]? = some p)
    (move : WatchMove o s op p a p' more) : Handover o s (s.setStart op p') more := by
  obtain ⟨live, watched, moved⟩ := move.watched
  have still : p'.held? = none := by
    rcases moved with still | ⟨e, rfl, _⟩
    · exact StartPoint.held?_of_watched still
    · rfl
  refine .still (fun _ => ?_) rfl ?_
  · exact State.holds_set_start here (StartPoint.held?_of_watched watched) still rfl rfl rfl
  · cases move <;> simp [Event.isFarewell]

theorem spawn_handover (h : Coherent s) (here : s.starts[op]? = some .launching) (pid : Option Nat) :
    Handover o s (s.spawned op pid) [] := by
  obtain ⟨gone, counted⟩ := h.start_fits here
  refine .spawn ?_ ?_ (by simp [State.spawned, State.setStart])
  · intro handle
    rw [State.holds_without gone (h.holds_at_start here rfl)]
    simp [StartPoint.held?]
  · intro handle
    refine Iff.trans (h.holds_alone_of_start here rfl rfl rfl gone) ?_
    exact Option.some_inj.trans eq_comm

theorem register_handover (h : Coherent s) {w : Nat} (here : s.starts[op]? = some (.launched w)) :
    Handover o s (s.register op w) [] := by
  have gone := (h.start_fits here).1
  have registered : s.register op w = _ := State.register_of_none gone
  refine .still ?_ (by rw [registered]) (by simp)
  intro handle
  rw [State.holds_without gone (h.holds_at_start here rfl),
    h.holds_of_start here rfl (by rw [registered]) (by rw [registered]), registered]
  simp [StartPoint.held?, State.held?]

theorem take_handover (h : Coherent s) {e : StartupError} {live : Live}
    (here : s.starts[op]? = some (.failed e)) (held : s.lifecycle.live = some live) :
    Handover o s (s.forget.setStart op (.taken e live)) [] := by
  refine .still ?_ rfl (by simp)
  intro handle
  refine Iff.trans (h.holds_of_start here rfl rfl rfl) ?_
  rw [h.holds_at_start here rfl]
  simp [StartPoint.held?, State.held?, held, State.forget, State.setStart]

theorem start_handover (h : Coherent s) {p : StartPoint} {a : StartAct}
    (here : s.starts[op]? = some p) (move : StartMove o s op p a s' more) :
    Handover o s s' more := by
  have fits := h.start_fits here
  cases move with
  | call =>
    exact .still (fun _ => State.holds_set_start here rfl rfl rfl rfl rfl) rfl (by simp [Event.isFarewell])
  | refuse | breakDown | publish | abandon | promote | miss =>
    exact .still (fun _ => State.holds_set_start here rfl rfl rfl rfl rfl) rfl (by simp)
  | watch move => exact watch_handover here move
  | spawn pid => exact h.spawn_handover here pid
  | register w => exact h.register_handover here
  | take held => exact h.take_handover here held
  | terminate alive =>
    refine .ask ((h.holds_at_start here rfl).mpr (.inl rfl)) ?_ State.onWorker_length rfl
    intro handle
    refine Iff.trans (h.holds_alone_of_start here rfl rfl rfl fits.1) ?_
    exact Option.some_inj.trans eq_comm
  | spare final =>
    exact .letGo ((h.holds_at_start here rfl).mpr (.inl rfl))
      (fun _ => h.holds_none_of_start here rfl rfl rfl fits.1 rfl) (State.hasEnded_of_report? final)
      State.onWorker_length
  | ended final =>
    exact .letGo ((h.holds_at_start here rfl).mpr (.inl rfl))
      (fun _ => h.holds_none_of_start here rfl rfl rfl fits.1 rfl) (State.hasEnded_of_outcome? final)
      State.onWorker_length
  | outlast =>
    exact .outlast ((h.holds_at_start here rfl).mpr (.inl rfl))
      (fun _ => h.holds_none_of_start here rfl rfl rfl fits.1 rfl) State.onWorker_length

theorem stop_handover (h : Coherent s) {p : StopPoint} {a : StopAct}
    (here : s.stops[op]? = some p) (move : StopMove o s op p a s' more) :
    Handover o s s' more := by
  cases move with
  | terminate alive =>
    refine .ask ((h.holds_at_stop here rfl).mpr (.inl rfl)) ?_ State.onWorker_length rfl
    intro handle
    refine Iff.trans (h.holds_alone_of_stop here rfl rfl rfl rfl) ?_
    exact Option.some_inj.trans eq_comm
  | spare final =>
    exact .letGo ((h.holds_at_stop here rfl).mpr (.inl rfl))
      (fun _ => h.holds_none_of_stop here rfl rfl rfl rfl rfl) (State.hasEnded_of_report? final)
      State.onWorker_length
  | ended final =>
    exact .letGo ((h.holds_at_stop here rfl).mpr (.inl rfl))
      (fun _ => h.holds_none_of_stop here rfl rfl rfl rfl rfl) (State.hasEnded_of_outcome? final)
      State.onWorker_length
  | outlast =>
    exact .outlast ((h.holds_at_stop here rfl).mpr (.inl rfl))
      (fun _ => h.holds_none_of_stop here rfl rfl rfl rfl rfl) State.onWorker_length
  | clear | publish => exact .still (fun _ => State.holds_set_stop here rfl rfl rfl rfl rfl) rfl (by simp)

theorem holds_divert (h : Coherent s) {live : Live} (ready : s.lifecycle.phase = .ready)
    (held : s.lifecycle.live = some live) (handle : Nat × Bool) :
    (s.divert live).Holds handle ↔ s.Holds handle := by
  have before : s.held? .lifecycle = some (live.worker, false) := by simp [State.held?, held]
  have after : (s.divert live).held? (.stop s.stops.length) = some (live.worker, false) := by
    simp [State.held?, State.divert, StopPoint.held?]
  rw [h.holds_iff before, (h.divert ready held).holds_iff after]

theorem caller_handover (h : Coherent s) {i : Nat} {c c' : Caller} {a : CallerAct}
    (move : CallerMove o s i c a s' c' more) : Handover o s s' more := by
  cases move with
  | create =>
    refine .still ?_ rfl (by simp)
    intro handle
    simp only [State.Holds, State.held?_create]
  | @restart live here ready held =>
    have counted : Coherent (s.count live.generation) := h.transfer rfl rfl rfl rfl rfl rfl rfl rfl rfl
    exact .still (counted.holds_divert ready held) rfl (by simp)
  | halt here ready held => exact .still (h.holds_divert ready held) rfl (by simp)
  | call => exact .still (fun _ => Iff.rfl) rfl (by simp [Event.isFarewell])
  | restartEnded | announce | cancel | haltEmpty =>
    refine .still (fun handle => ?_) rfl (by simp)
    exact exists_congr fun k => by cases k <;> exact Iff.rfl
  | _ => exact .still (fun _ => Iff.rfl) rfl (by simp)

end Coherent

theorem Handover.transfer {t : State} (handover : Handover o s s' more) (starts : t.starts = s'.starts)
    (stops : t.stops = s'.stops) (lifecycle : t.lifecycle = s'.lifecycle)
    (workers : t.workers.length = s'.workers.length) : Handover o s t more := by
  have same (handle : Nat × Bool) : t.Holds handle ↔ s'.Holds handle :=
    exists_congr fun k => by cases k <;> simp only [State.held?, starts, stops, lifecycle]
  cases handover with
  | still before count quiet =>
    exact .still (fun handle => (same handle).trans (before handle)) (workers.trans count) quiet
  | spawn before after count =>
    exact .spawn before (fun handle => (same handle).trans (after handle)) (workers.trans count)
  | ask before after count quiet =>
    exact .ask before (fun handle => (same handle).trans (after handle)) (workers.trans count) quiet
  | letGo before after ended count =>
    exact .letGo before (fun handle => mt (same handle).mp (after handle)) ended (workers.trans count)
  | outlast before after count =>
    exact .outlast before (fun handle => mt (same handle).mp (after handle)) (workers.trans count)

theorem Reachable.handover (reachable : Reachable o s) (taken : s.step o l = some (s', more)) :
    Handover o s s' more := by
  have h := reachable.coherent
  have nothing : Handover o s s [] := .still (fun _ => Iff.rfl) rfl (by simp)
  cases State.step_move taken with
  | enter => exact nothing.transfer rfl rfl rfl rfl
  | start here move => exact h.start_handover here move
  | stop here move => exact h.stop_handover here move
  | caller here move => exact (h.caller_handover move).transfer rfl rfl rfl rfl
  | worker here held move =>
    have silent : Handover o s s more :=
      .still (fun _ => Iff.rfl) rfl (by cases move <;> simp [Event.isFarewell])
    exact silent.transfer rfl rfl rfl (List.length_set ..)
  | @monitor i m _ here pending ended move =>
    cases move with
    | pass => exact nothing.transfer rfl rfl rfl rfl
    | @demote live held same ready =>
      -- The monitor has seen the end of the very worker that is let go.
      have rank : live.worker = m.live.worker := by
        have latest := h.latest held
        have known := reachable.monitored.live here
        have generation := latest.generation
        have worker := latest.worker
        rw [known] at same ⊢
        simp only at same ⊢
        omega
      have before : s.Holds (live.worker, false) := ⟨.lifecycle, by simp [State.held?, held]⟩
      refine .letGo before ((h.step taken).holds_of_idle rfl) ?_ (List.length_modify ..)
      rw [rank]
      exact State.hasEnded_of_outcome? ended

end MissionWorker.Supervisor
