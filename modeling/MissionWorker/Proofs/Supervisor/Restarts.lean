import MissionWorker.Proofs.Supervisor.Lifecycle
import MissionWorker.Proofs.Supervisor.Trail

namespace MissionWorker.Supervisor

variable {o : Options} {s s' : State} {l : Label} {more : List Event} {op : Nat} {live : Live}
  {steps : List Taken}

def CallerPoint.restarting? : CallerPoint → Option Nat
  | .restarting generation => some generation
  | _ => none

/-- The generation under which a step wants the worker restarted. -/
def Taken.restarting? (t : Taken) : Option Nat :=
  match t.label with
  | .caller i .act => t.before.callers[i]?.bind fun c => c.point.restarting?
  | _ => none

/-- The generation that a step counts as restarted: the counter has moved. -/
def Taken.counted? (t : Taken) : Option Nat :=
  if t.after.restarts = t.before.restarts then none else t.restarting?

def counted (steps : List Taken) : List Nat := steps.filterMap Taken.counted?

def Taken.decides (o : Options) (t : Taken) : Bool :=
  match t.label with
  | .caller i (.callReturned (.error e)) =>
    t.before.callers[i]?.any fun c => o.recovery.decide e.recovery c.used == .restart
  | _ => false

def decisions (o : Options) (steps : List Taken) : Nat := steps.countP (Taken.decides o)

theorem Taken.counted?_of_still {t : Taken} (still : t.after.restarts = t.before.restarts) :
    t.counted? = none := if_pos still

def StopPoint.live? : StopPoint → Option Live
  | .created live | .terminating live => some live
  | _ => none

theorem StopPoint.Leads.live? {p p' : StopPoint} (leads : p.Leads p') {l : Live}
    (still : p'.live? = some l) : p.live? = some l := by
  cases leads with
  | terminate => exact still
  | spare | letGo | clear | publish => cases still

def State.Devotes (s : State) (op : Nat) (live : Live) : Prop :=
  ∃ p, s.stops[op]? = some p ∧ ∀ l, p.live? = some l → l = live

namespace State

theorem step_devotes (taken : s.step o l = some (s', more)) (devotes : s.Devotes op live) :
    s'.Devotes op live := by
  obtain ⟨p, here, only⟩ := devotes
  obtain ⟨q, there, rfl | ⟨_, _, _, leads⟩⟩ := (step_stops taken).onward here
  · exact ⟨q, there, only⟩
  · refine ⟨q, there, ?_⟩
    intro l still
    exact only l (leads.live? still)

theorem onWorker_other {w w' : Nat} {f : Child.Channel → Child.Channel} (other : w' ≠ w) :
    (s.onWorker w f).workers[w']? = s.workers[w']? := List.getElem?_modify_ne _ _ (Ne.symm other)

theorem Devotes.others {a : StopAct} (devotes : s.Devotes op live)
    (taken : s.step o (.stop op a) = some (s', more)) {w : Nat} (other : w ≠ live.worker) :
    s'.workers[w]? = s.workers[w]? ∧ ∀ mode, .terminate w mode ∉ more := by
  obtain ⟨p, here, only⟩ := devotes
  cases step_move taken with
  | stop there move =>
    cases here.symm.trans there
    cases move with
    | terminate | outlast =>
      rw [← only _ rfl] at other
      exact ⟨onWorker_other other, by simp [other]⟩
    | spare | ended =>
      rw [← only _ rfl] at other
      exact ⟨onWorker_other other, by simp⟩
    | clear | publish => exact ⟨rfl, by simp⟩

end State

/-- Whatever comes next, a stop operation has nothing to do with any worker but this one: it asks no
other to end, and lets no other's handle go. -/
def State.StopsOnly (s : State) (o : Options) (op : Nat) (live : Live) : Prop :=
  ∀ {labels : List Label} {u u' : State} {a : StopAct} {more asked : List Event},
    s.run o labels = some (u, more) → u.step o (.stop op a) = some (u', asked) →
    ∀ w, w ≠ live.worker → u'.workers[w]? = u.workers[w]? ∧ ∀ mode, .terminate w mode ∉ asked

theorem Reachable.stopsOnly (reachable : Reachable o s) (devotes : s.Devotes op live) :
    s.StopsOnly o op live := by
  intro labels u u' a more asked goes taken w other
  have later : u.Devotes op live :=
    reachable.stays (fun _ devotes taken => State.step_devotes taken devotes) devotes goes
  exact later.others taken other

/-- What a restart under a generation comes to: the worker in use is left alone, or it is the one of
that generation, and a stop operation of its own takes it away. -/
structure State.Spares (s : State) (o : Options) (generation : Nat) (s' : State) : Prop where
  workers : s'.workers = s.workers
  starts : s'.starts = s.starts
  stopped : (s'.lifecycle.live = s.lifecycle.live ∧ s'.lifecycle.phase = s.lifecycle.phase ∧
      s'.stops = s.stops) ∨
    ∃ live, s.lifecycle.live = some live ∧ live.generation = generation ∧
      s.lifecycle.phase = .ready ∧ s'.stops = s.stops ++ [.created live] ∧
      s'.lifecycle.stopOp = some s.stops.length ∧ s'.StopsOnly o s.stops.length live

theorem Reachable.restart_spares (reachable : Reachable o s) {i generation : Nat} {c : Caller}
    (here : s.callers[i]? = some c) (at_ : c.point = .restarting generation) :
    ∃ s', s.step o (.caller i .act) = some (s', []) ∧ s.Spares o generation s' := by
  have taken : s.step o (.caller i .act) =
      some ((s.restart generation).2.setCaller i { c with point := (s.restart generation).1 }, []) := by
    simp [State.step, here, State.stepCaller, at_, State.quietly]
  refine ⟨_, taken, ?_⟩
  have onward := reachable.step taken
  have move : CallerMove o s i c .act _ _ [] := State.restart_move at_
  generalize (s.restart generation).2 = t at move onward
  generalize { c with point := (s.restart generation).1 } = c' at move onward
  cases move with
  | @restart live there ready held =>
    cases at_.symm.trans there
    have devotes : (((s.count live.generation).divert live).setCaller i
        { c with point := .awaitingRestart s.stops.length }).Devotes s.stops.length live := by
      refine ⟨.created live, List.getElem?_concat_length, ?_⟩
      rintro l ⟨⟩
      rfl
    exact ⟨rfl, rfl, .inr ⟨live, held, rfl, ready, rfl, rfl, onward.stopsOnly devotes⟩⟩
  | restartEnded | restartStale => exact ⟨rfl, rfl, .inl ⟨rfl, rfl, rfl⟩⟩
  | stopped there => rcases there with there | there <;> cases at_.symm.trans there
  | _ => simp_all

/-- What a step does to the counters. A generation is counted where its worker is ready, or was the
last one and is not counted yet. -/
inductive Tally (s s' : State) (t : Taken) : Prop where
  | still (none : t.counted? = none) (restarts : s'.restarts = s.restarts)
    (restarted : s'.lifecycle.restarted = s.lifecycle.restarted)
  | count {generation : Nat} (one : t.counted? = some generation)
    (restarts : s'.restarts = s.restarts + 1) (restarted : s'.lifecycle.restarted = generation)
    (live : s'.lifecycle.live = none) (last : generation + 1 = s'.lifecycle.nextGeneration)
    (fresh : s.lifecycle.restarted < generation ∨
      ∃ live, s.lifecycle.live = some live ∧ live.generation = generation)

namespace Coherent

theorem caller_tally (h : Coherent s) {i : Nat} {c c' : Caller} {a : CallerAct}
    (here : s.callers[i]? = some c) (move : CallerMove o s i c a s' c' more) :
    Tally s (s'.setCaller i c') ⟨s, .caller i a, s'.setCaller i c', more⟩ := by
  have counting {generation : Nat} (at_ : c.point = .restarting generation)
      (moved : s'.restarts = s.restarts + 1) :
      Taken.counted? ⟨s, .caller i .act, s'.setCaller i c', more⟩ = some generation := by
    have differ : (s'.setCaller i c').restarts ≠ s.restarts := by
      show s'.restarts ≠ s.restarts
      omega
    simp [Taken.counted?, Taken.restarting?, differ, here, at_, CallerPoint.restarting?]
  cases move with
  | @restart live at_ ready held =>
    have counted := (h.settled (by simp [ready])).1
    have latest := (h.latest held).generation
    refine .count (counting at_ rfl) rfl rfl rfl ?_ (.inr ⟨live, held, rfl⟩)
    show live.generation + 1 = s.lifecycle.nextGeneration
    omega
  | restartEnded at_ idle last fresh =>
    have gone : s.lifecycle.live = none := h.no_live (by simp [idle]) (by simp [idle])
    exact .count (counting at_ rfl) rfl rfl gone last (.inl fresh)
  | _ => exact .still (Taken.counted?_of_still rfl) rfl rfl

theorem step_tally (h : Coherent s) (taken : s.step o l = some (s', more)) :
    Tally s s' ⟨s, l, s', more⟩ := by
  cases State.step_move taken with
  | enter | worker => exact .still (Taken.counted?_of_still rfl) rfl rfl
  | start here move =>
    cases move with
    | register w =>
      rw [State.register_of_none (h.start_fits here).1]
      exact .still (Taken.counted?_of_still rfl) rfl rfl
    | _ => exact .still (Taken.counted?_of_still rfl) rfl rfl
  | stop here move => cases move <;> exact .still (Taken.counted?_of_still rfl) rfl rfl
  | monitor here pending ended move =>
    cases move <;> exact .still (Taken.counted?_of_still rfl) rfl rfl
  | caller here move => exact h.caller_tally here move

theorem step_live (h : Coherent s) (taken : s.step o l = some (s', more))
    (held : s'.lifecycle.live = some live) :
    s.lifecycle.live = some live ∨ live.generation = s.lifecycle.nextGeneration := by
  cases State.step_move taken with
  | enter | worker => exact .inl held
  | start here move =>
    cases move with
    | register w =>
      rw [State.register_of_none (h.start_fits here).1] at held
      cases held
      exact .inr rfl
    | take => cases held
    | _ => exact .inl held
  | stop here move => cases move <;> exact .inl held
  | monitor here pending ended move =>
    cases move with
    | pass => exact .inl held
    | demote => cases held
  | caller here move =>
    cases move with
    | restart | halt => cases held
    | _ => exact .inl held

end Coherent

structure Tallied (steps : List Taken) (s : State) : Prop where
  increasing : (counted steps).Pairwise (· < ·)
  positive : ∀ generation ∈ counted steps, 0 < generation
  highest : ∀ generation ∈ counted steps, generation ≤ s.lifecycle.restarted
  restarts : s.restarts = (counted steps).length
  restarted : s.lifecycle.restarted = (counted steps).getLast?.getD 0
  few : s.restarts ≤ s.lifecycle.restarted
  below : s.lifecycle.restarted < s.lifecycle.nextGeneration
  /-- So no generation that was counted is ever in use again. -/
  fresh : ∀ {live : Live}, s.lifecycle.live = some live → s.lifecycle.restarted < live.generation

theorem Tallied.new : Tallied [] {} where
  increasing := .nil
  positive := by simp [counted]
  highest := by simp [counted]
  restarts := rfl
  restarted := rfl
  few := Nat.le_refl 0
  below := Nat.zero_lt_one
  fresh := by simp

theorem counted_append (steps : List Taken) (t : Taken) :
    counted (steps ++ [t]) = counted steps ++ t.counted?.toList := by
  cases one : t.counted? <;> simp [counted, one]

theorem Tallied.still (h : Tallied steps s) {t : Taken} (none : t.counted? = none)
    (restarts : s'.restarts = s.restarts) (restarted : s'.lifecycle.restarted = s.lifecycle.restarted)
    (grown : s.lifecycle.nextGeneration ≤ s'.lifecycle.nextGeneration)
    (next : ∀ {live : Live}, s'.lifecycle.live = some live →
      s.lifecycle.live = some live ∨ live.generation = s.lifecycle.nextGeneration) :
    Tallied (steps ++ [t]) s' := by
  have same : counted (steps ++ [t]) = counted steps := by
    rw [counted_append, none, Option.toList_none, List.append_nil]
  have below := h.below
  constructor
  · rw [same]
    exact h.increasing
  · rw [same]
    exact h.positive
  · rw [same, restarted]
    exact h.highest
  · rw [same, restarts]
    exact h.restarts
  · rw [same, restarted]
    exact h.restarted
  · rw [restarts, restarted]
    exact h.few
  · omega
  · intro live held
    rw [restarted]
    rcases next held with already | new
    · exact h.fresh already
    · omega

theorem Tallied.count (h : Tallied steps s) {t : Taken} {generation : Nat}
    (one : t.counted? = some generation) (higher : s.lifecycle.restarted < generation)
    (restarts : s'.restarts = s.restarts + 1) (restarted : s'.lifecycle.restarted = generation)
    (gone : s'.lifecycle.live = none) (last : generation + 1 = s'.lifecycle.nextGeneration) :
    Tallied (steps ++ [t]) s' := by
  have appended : counted (steps ++ [t]) = counted steps ++ [generation] := by
    rw [counted_append, one, Option.toList_some]
  have bound (g : Nat) (member : g ∈ counted steps) : g < generation :=
    Nat.lt_of_le_of_lt (h.highest g member) higher
  have few := h.few
  constructor
  · rw [appended, List.pairwise_append]
    refine ⟨h.increasing, List.pairwise_singleton _ _, ?_⟩
    intro g member g' same
    rw [List.mem_singleton.mp same]
    exact bound g member
  · intro g member
    rw [appended] at member
    rcases List.mem_append.mp member with old | new
    · exact h.positive g old
    · rw [List.mem_singleton.mp new]
      exact Nat.zero_lt_of_lt higher
  · intro g member
    rw [appended] at member
    rw [restarted]
    rcases List.mem_append.mp member with old | new
    · exact Nat.le_of_lt (bound g old)
    · exact Nat.le_of_eq (List.mem_singleton.mp new)
  · rw [appended, restarts, h.restarts, List.length_append, List.length_singleton]
  · rw [appended, restarted, List.getLast?_concat, Option.getD_some]
  · omega
  · omega
  · intro live held
    rw [gone] at held
    cases held

theorem Tallied.step (h : Tallied steps s) (coherent : Coherent s)
    (taken : s.step o l = some (s', more)) : Tallied (steps ++ [⟨s, l, s', more⟩]) s' := by
  cases coherent.step_tally taken with
  | still none restarts restarted =>
    exact h.still none restarts restarted (State.step_nextGeneration taken)
      (fun held => coherent.step_live taken held)
  | @count generation one restarts restarted gone last fresh =>
    -- The worker in use has a generation that was not counted, so both ways of counting are alike.
    have higher : s.lifecycle.restarted < generation := by
      rcases fresh with fresh | ⟨live, held, rfl⟩
      · exact fresh
      · exact h.fresh held
    exact h.count one higher restarts restarted gone last

theorem Trail.tallied (trail : Trail o steps s) : Tallied steps s := by
  induction trail with
  | new => exact .new
  | step trail taken h => exact h.step trail.reachable.coherent taken

def Caller.restarts (c : Caller) : Bool := c.point.restarting?.isSome

/-- How many callers have decided on a restart and are yet to have it done. -/
def State.due (s : State) : Nat := s.callers.countP Caller.restarts

theorem CallerMove.due {i : Nat} {c c' : Caller} {a : CallerAct} (here : s.callers[i]? = some c)
    (move : CallerMove o s i c a s' c' more) :
    s'.restarts + c'.restarts.toNat ≤ s.restarts + c.restarts.toNat +
      (Taken.decides o ⟨s, .caller i a, s'.setCaller i c', more⟩).toNat := by
  cases move with
  | @answer generation r at_ =>
    cases r with
    | ok v =>
      show s.restarts + 0 ≤ _
      omega
    | error e =>
      cases decided : o.recovery.decide e.recovery c.used with
      | surface =>
        have silent : (State.receiveAnswer o c generation (.error e)).restarts = false := by
          simp [State.receiveAnswer, decided, Caller.restarts, CallerPoint.restarting?]
        rw [silent]
        simp only [Bool.toNat_false]
        omega
      | restart =>
        have decides : Taken.decides o ⟨s, .caller i (.callReturned (.error e)), s.setCaller i
            (State.receiveAnswer o c generation (.error e)), []⟩ = true := by
          simp [Taken.decides, here, decided]
        have one := Bool.toNat_le (State.receiveAnswer o c generation (.error e)).restarts
        rw [decides]
        simp only [Bool.toNat_true]
        omega
  | restart at_ | restartEnded at_ =>
    have due : c.restarts = true := by simp [Caller.restarts, CallerPoint.restarting?, at_]
    rw [due]
    show s.restarts + 1 + 0 ≤ _
    simp only [Bool.toNat_true]
    omega
  | _ =>
    show s.restarts + 0 ≤ _
    omega

theorem State.due_setCaller {i : Nat} {c : Caller} (here : s.callers[i]? = some c) (c' : Caller) :
    (s.setCaller i c').due + c.restarts.toNat = s.due + c'.restarts.toNat := by
  obtain ⟨bound, rfl⟩ := List.getElem?_eq_some_iff.mp here
  have replaced := List.countP_set (p := Caller.restarts) (a := c') bound
  have member : s.callers[i] ∈ s.callers := List.getElem_mem bound
  show (s.callers.set i c').countP Caller.restarts + _ = s.callers.countP Caller.restarts + _
  rw [replaced]
  cases before : s.callers[i].restarts with
  | false => cases c'.restarts <;> simp
  | true =>
    have some : 0 < s.callers.countP Caller.restarts := List.countP_pos_iff.mpr ⟨_, member, before⟩
    cases c'.restarts <;> simp <;> omega

theorem State.step_due (taken : s.step o l = some (s', more)) :
    s'.restarts + s'.due ≤ s.restarts + s.due + (Taken.decides o ⟨s, l, s', more⟩).toNat := by
  cases State.step_move taken with
  | enter job =>
    have none : Caller.restarts { job, point := State.entry job } = false := by cases job <;> rfl
    simp [due, List.countP_append, none]
  | worker => exact Nat.le_add_right _ _
  | start here move =>
    have callers := move.frame.2
    have same : s'.restarts = s.restarts := by
      cases move with
      | register w =>
        show (s.releaseAny s.lifecycle.live).restarts = s.restarts
        cases s.lifecycle.live <;> rfl
      | _ => rfl
    simp [due, callers, same]
  | stop here move => cases move <;> exact Nat.le_add_right _ _
  | monitor here pending ended move => cases move <;> exact Nat.le_add_right _ _
  | @caller i c c' a s₁ asked here move =>
    -- What the caller no longer has due is counted now, or was due to nobody but it.
    have moved := move.due here
    have there : s₁.callers[i]? = some c := by rw [move.callers, here]
    have replaced := State.due_setCaller there c'
    have same : s₁.due = s.due := by rw [due, due, move.callers]
    have unmoved : (s₁.setCaller i c').restarts = s₁.restarts := rfl
    omega

theorem decisions_append (steps : List Taken) (t : Taken) :
    decisions o (steps ++ [t]) = decisions o steps + (t.decides o).toNat := by
  rw [decisions, List.countP_append, List.countP_singleton]
  cases t.decides o <;> rfl

theorem Trail.decided (trail : Trail o steps s) : s.restarts + s.due ≤ decisions o steps := by
  induction trail with
  | new => exact Nat.le_refl 0
  | step _ taken ih =>
    have moved := State.step_due taken
    rw [decisions_append]
    omega

/-- What can be relied on of restarts, after a run with all its steps. -/
structure RestartsChecked (o : Options) (steps : List Taken) (s : State) : Prop where
  spares : ∀ {i generation : Nat} {c : Caller}, s.callers[i]? = some c →
    c.point = .restarting generation →
    ∃ s', s.step o (.caller i .act) = some (s', []) ∧ s.Spares o generation s'
  once : (counted steps).Nodup
  restarts : s.restarts = (counted steps).length
  increasing : (counted steps).Pairwise (· < ·)
  latest : s.lifecycle.restarted = (counted steps).getLast?.getD 0
  below : s.lifecycle.restarted < s.lifecycle.nextGeneration
  launched : ∀ generation ∈ counted steps,
    0 < generation ∧ generation < s.lifecycle.nextGeneration
  few : s.restarts ≤ s.lifecycle.nextGeneration - 1 ∧ s.lifecycle.nextGeneration - 1 ≤ s.spawns
  decided : s.restarts ≤ decisions o steps

theorem restarts_checked (trail : Trail o steps s) : RestartsChecked o steps s := by
  have h := trail.tallied
  have coherent := trail.reachable.coherent
  have below := h.below
  exact {
    spares := fun here at_ => trail.reachable.restart_spares here at_
    once := h.increasing.imp Nat.ne_of_lt
    restarts := h.restarts
    increasing := h.increasing
    latest := h.restarted
    below := below
    launched := by
      intro generation member
      have bound := h.highest generation member
      exact ⟨h.positive generation member, Nat.lt_of_le_of_lt bound below⟩
    few := by
      have few := h.few
      have spawned := coherent.spawned
      rcases coherent.counted with counted | ⟨counted, _⟩
      · omega
      · omega
    decided := Nat.le_trans (Nat.le_add_right _ _) trail.decided }

/-- Two requests fail under the same generation, and the second is too late to restart it. -/
theorem restarts_checked_of_two : ∃ steps s, Trail .plain steps s ∧ s.restarts = 1 ∧
    (∃ c, s.callers[1]? = some c ∧ c.point = .restarting 1 ∧ c.used = 1) ∧
    RestartsChecked .plain steps s := by
  let ask : Label := .enter (.request "/health" none)
  let failed : CallerAct := .callReturned (.error (.timedOut ""))
  let labels : List Label := Label.smoothStart ++
    [ask, ask, .caller 1 .act, .caller 1 .act, .caller 2 .act, .caller 2 .act, .caller 2 failed,
      .caller 2 .act, .caller 1 failed]
  obtain ⟨steps, trail, _⟩ := History.trail (o := .plain) ⟨labels, rfl⟩
  exact ⟨steps, _, trail, rfl, ⟨_, rfl, rfl, rfl⟩, restarts_checked trail⟩

end MissionWorker.Supervisor
