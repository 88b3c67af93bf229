import MissionWorker.Proofs.Supervisor.Chronicle

namespace MissionWorker.Supervisor

variable {o : Options} {s s' : State} {l : Label} {asked more : List Event} {op i n w : Nat}
  {c c' : Caller}

theorem State.step_held_stop {once : Bool} (taken : s.step o l = some (s', more))
    (held : s.held? (.stop op) = some (w, once)) :
    (∃ also, s'.held? (.stop op) = some (w, also)) ∨ s'.DoneWith more w := by
  obtain ⟨p, here, holds⟩ := Option.bind_eq_some_iff.mp held
  obtain ⟨q, there, rfl | ⟨a, rfl, move, _⟩⟩ := (State.step_stops taken).onward here
  · exact .inl ⟨once, by rw [State.held?, there, Option.bind_some, holds]⟩
  · have bound := (List.getElem?_eq_some_iff.mp here).1
    cases move with
    | @terminate live =>
      cases holds
      have asks : ((s.asked o live).setStop op (.terminating live)).stops[op]? =
          some (.terminating live) := List.getElem?_set_self bound
      exact .inl ⟨true, by rw [held?, asks]; rfl⟩
    | spare final =>
      cases holds
      exact .inr (.inl (State.step_hasEnded taken (State.hasEnded_of_report? final)))
    | ended final =>
      cases holds
      exact .inr (.inl (State.step_hasEnded taken (State.hasEnded_of_outcome? final)))
    | outlast =>
      cases holds
      exact .inr (.inr (List.mem_singleton.mpr rfl))
    | clear | publish => cases holds

/-- How far the stop of a caller has come with the first so many workers. -/
def Caller.Covers (c : Caller) (s : State) (asked : List Event) (n : Nat) : Prop :=
  match c.point with
  | .stopping | .outwaitingStart _ | .dropped => True
  | .outwaitingStop op => ∀ w < n, s.DoneWith asked w ∨ ∃ once, s.held? (.stop op) = some (w, once)
  | .returned r => r = .ok .null ∧ ∀ w < n, s.DoneWith asked w
  | _ => False

theorem Caller.Covers.step (covers : c.Covers s asked n) (taken : s.step o l = some (s', more)) :
    c.Covers s' (asked ++ more) n := by
  unfold Caller.Covers at covers ⊢
  split at covers
  · trivial
  · trivial
  · trivial
  · intro w inside
    rcases covers w inside with done | ⟨once, held⟩
    · exact .inl (done.step taken)
    · rcases State.step_held_stop taken held with still | ended | waited
      · exact .inr still
      · exact .inl (.inl ended)
      · exact .inl (.inr (List.mem_append_right _ waited))
  · exact ⟨covers.1, fun w inside => (covers.2 w inside).step taken⟩
  · exact covers.elim

theorem Caller.Covers.transfer (covers : c.Covers s asked n) (workers : s'.workers = s.workers)
    (stops : s'.stops = s.stops) (more : List Event) : c.Covers s' (asked ++ more) n := by
  have done {w : Nat} (so : s.DoneWith asked w) : s'.DoneWith (asked ++ more) w := by
    rw [State.DoneWith, State.hasEnded, workers]
    exact so.imp_right (List.mem_append_left _)
  unfold Caller.Covers at covers ⊢
  split at covers
  · trivial
  · trivial
  · trivial
  · intro w inside
    rw [State.held?, stops]
    exact (covers w inside).imp_left done
  · exact ⟨covers.1, fun w inside => done (covers.2 w inside)⟩
  · exact covers.elim

theorem Coherent.held_while_stopping (h : Coherent s) (told : s.lifecycle.stopOp = some op)
    {handle : Nat × Bool} (held : s.Holds handle) : s.held? (.stop op) = some handle := by
  have stopping : s.lifecycle.phase = .stopping := h.stopping.mp (by simp [told])
  obtain ⟨k, held⟩ := held
  cases k with
  | start =>
    have starting := (h.keeper_start held).1
    simp [stopping] at starting
  | lifecycle =>
    have gone := h.no_live (by simp [stopping]) (by simp [stopping])
    simp [State.held?, gone] at held
  | stop other =>
    have told' := (h.keeper_stop held).2.1
    rwa [← Option.some.inj (told'.symm.trans told)]

theorem State.held?_of_done (final : s.stopIsDone op) : s.held? (.stop op) = none := by
  rw [held?, eq_of_beq final]
  rfl

theorem History.move_covers (history : History o asked s) (few : n ≤ s.workers.length)
    {a : CallerAct} (move : CallerMove o s i c a s' c' more) (covers : c.Covers s asked n) :
    c'.Covers s' asked n := by
  have h : Coherent s := (Reachable.iff_history.mpr ⟨asked, history⟩).coherent
  have placed {w : Nat} (inside : w < n) :
      s.DoneWith asked w ∨ ∃ once, s.Holds (w, once) := by
    rcases history.accounted.placed (Nat.lt_of_lt_of_le inside few) with ended | held | waited
    · exact .inl (.inl ended)
    · exact .inr held
    · exact .inl (.inr waited)
  unfold Caller.Covers at covers
  cases move with
  | drop => trivial
  | haltIdle at_ idle =>
    refine ⟨rfl, fun w inside => ?_⟩
    rcases placed inside with done | ⟨_, held⟩
    · exact done
    · exact absurd held (h.holds_of_idle idle _)
  | haltLost at_ lost => exact absurd (.inr lost) h.not_lost
  | haltEmpty at_ ready missing => exact absurd (.inl ⟨ready, missing⟩) h.not_lost
  | haltStart => trivial
  | haltStop at_ stopping told =>
    intro w inside
    rcases placed inside with done | ⟨once, held⟩
    · exact .inl done
    · exact .inr ⟨once, h.held_while_stopping told held⟩
  | @halt live at_ ready held =>
    -- The handle of the ready worker goes over to the new operation.
    intro w inside
    rcases placed inside with done | ⟨once, holds⟩
    · exact .inl done
    · have diverted := h.divert ready held
      have handed := (h.holds_divert ready held _).mpr holds
      exact .inr ⟨once, diverted.held_while_stopping rfl handed⟩
  | outwaitedStart => trivial
  | outwaitedStop at_ final =>
    simp only [at_] at covers
    refine ⟨rfl, fun w inside => ?_⟩
    rcases covers w inside with done | ⟨_, held⟩
    · exact done
    · rw [State.held?_of_done final] at held
      cases held
  | stopped at_ => rcases at_ with at_ | at_ <;> simp [at_] at covers
  | _ => simp_all

structure Taken.Harmless (t : Taken) : Prop where
  launch : ∀ op, .launch op ∉ t.asked
  starts : t.after.starts = t.before.starts
  workers : t.after.workers.length = t.before.workers.length
  spawns : t.after.spawns = t.before.spawns
  restarts : t.after.restarts = t.before.restarts
  restarted : t.after.lifecycle.restarted = t.before.lifecycle.restarted

theorem StopMove.harmless {p : StopPoint} {a : StopAct} (move : StopMove o s op p a s' more) :
    Taken.Harmless ⟨s, .stop op a, s', more⟩ := by
  cases move with
  | terminate | spare | ended | outlast => exact ⟨by simp, rfl, State.onWorker_length, rfl, rfl, rfl⟩
  | clear | publish => exact ⟨by simp, rfl, rfl, rfl, rfl, rfl⟩

theorem CallerMove.harmless {a : CallerAct} (move : CallerMove o s i c a s' c' more)
    (covers : c.Covers s asked n) : Taken.Harmless ⟨s, .caller i a, s'.setCaller i c', more⟩ := by
  unfold Caller.Covers at covers
  cases move with
  | drop | haltIdle | haltLost | haltEmpty | haltStart | haltStop | halt =>
    exact ⟨by simp, rfl, rfl, rfl, rfl, rfl⟩
  | outwaitedStart | outwaitedStop => exact ⟨by simp, rfl, rfl, rfl, rfl, rfl⟩
  | stopped at_ => rcases at_ with at_ | at_ <;> simp [at_] at covers
  | _ => simp_all

theorem State.step_halt_of_idle (here : s.callers[i]? = some c) (stopping : c.point = .stopping)
    (idle : s.lifecycle.phase = .idle) :
    s.step o (.caller i .act) = some (s.setCaller i { c with point := .returned (.ok .null) }, []) := by
  simp [step, here, stepCaller, stopping, halt, idle, quietly, finished]

/-- A caller's stop begins in a step: the caller comes for that, or shuts the supervisor down and has
announced and cancelled all it has to. -/
inductive Taken.BeginsStop (t : Taken) : Nat → Prop where
  | call (label : t.label = .enter .stop) : BeginsStop t t.before.callers.length
  | shutdown {i : Nat} {c : Caller} (label : t.label = .caller i .act)
    (here : t.before.callers[i]? = some c) (cancelling : c.point = .cancelling) : BeginsStop t i

variable {t : Taken} {earlier later : List Taken}

theorem Taken.BeginsStop.after (begins : t.BeginsStop i)
    (taken : t.before.step o t.label = some (t.after, t.asked)) :
    t.Harmless ∧ ∃ c, t.after.callers[i]? = some c ∧ c.point = .stopping := by
  obtain ⟨before, l, after, asked⟩ := t
  cases begins with
  | call label =>
    cases label
    dsimp only at taken
    cases taken
    exact ⟨⟨by simp, rfl, rfl, rfl, rfl, rfl⟩, _, List.getElem?_concat_length, rfl⟩
  | @shutdown _ c label here cancelling =>
    cases label
    dsimp only at taken here
    cases State.step_move taken with
    | caller own move =>
      cases here.symm.trans own
      have bound := (List.getElem?_eq_some_iff.mp here).1
      cases move with
      | cancel => exact ⟨⟨by simp, rfl, rfl, rfl, rfl, rfl⟩, _, List.getElem?_set_self bound, rfl⟩
      | stopped at_ => rcases at_ with at_ | at_ <;> cases cancelling.symm.trans at_
      | _ => simp_all

theorem Trail.covers (trail : Trail o (earlier ++ t :: later) s) (begins : t.BeginsStop i) :
    t.before.workers.length ≤ s.workers.length ∧ ∃ c, s.callers[i]? = some c ∧
      c.Covers s ((earlier ++ t :: later).flatMap Taken.asked) t.before.workers.length := by
  generalize whole : earlier ++ t :: later = steps at trail
  induction trail generalizing later with
  | new => simp at whole
  | @step steps s s' l asked trail taken ih =>
    rcases append_cons_eq_concat whole with ⟨rfl, rfl, rfl⟩ | ⟨between, rfl, shorter⟩
    · obtain ⟨harmless, c, here, stopping⟩ := begins.after taken
      refine ⟨Nat.le_of_eq harmless.workers.symm, c, here, ?_⟩
      simp [Caller.Covers, stopping]
    · obtain ⟨few, c, here, covers⟩ := ih shorter
      have grown := (State.step_workers taken).length_le
      refine ⟨Nat.le_trans few grown, ?_⟩
      rw [List.flatMap_append, List.flatMap_singleton]
      obtain ⟨c', there, rfl | ⟨a, s₁, rfl, rfl, move⟩⟩ := (State.step_callers taken).onward here
      · exact ⟨c', there, covers.step taken⟩
      · exact ⟨c', there, (trail.history.move_covers few move covers).transfer rfl rfl _⟩

def Taken.OfStop (t : Taken) (i : Nat) : Prop :=
  (∃ a, t.label = .caller i a) ∨ ∃ op a, t.label = .stop op a

theorem Trail.harmless (trail : Trail o (earlier ++ t :: later) s) (begins : t.BeginsStop i)
    (taken : s.step o l = some (s', more)) (part : Taken.OfStop ⟨s, l, s', more⟩ i) :
    Taken.Harmless ⟨s, l, s', more⟩ := by
  rcases part with ⟨a, rfl⟩ | ⟨op, a, rfl⟩
  · obtain ⟨_, c, here, covers⟩ := trail.covers begins
    cases State.step_move taken with
    | caller own move =>
      cases here.symm.trans own
      exact move.harmless covers
  · cases State.step_move taken with
    | stop here move => exact move.harmless

/-- What a stop comes to that began in a step, with all that was done and asked since. -/
structure StopCovers (o : Options) (log : Log) (i : Nat) (t : Taken) (later : List Taken) (s : State) :
    Prop where
  covers : ∀ {c : Caller} {r : Result}, s.callers[i]? = some c → c.point = .returned r →
    r = .ok .null ∧ ∀ w < t.before.workers.length, s.hasEnded w = true ∨ Outwaited o log w
  delivered : s.Delivers o (log.map Prod.snd)
  begins : t.Harmless
  harmless : ∀ u ∈ later, u.OfStop i → u.Harmless
  /-- Where the stop finds nothing to stop, it comes back and leaves all else as it is. -/
  idle : ∀ u ∈ later, ∀ {c : Caller}, u.label = .caller i .act → u.before.callers[i]? = some c →
    c.point = .stopping → u.before.lifecycle.phase = .idle →
      u.after = u.before.setCaller i { c with point := .returned (.ok .null) } ∧ u.asked = []

theorem stop_covers {now since : Nat} {before after : Entries}
    (chronicle : Chronicle o now (before ++ (since, t) :: after) s) (begins : t.BeginsStop i) :
    StopCovers o (before ++ (since, t) :: after).log i t after.steps s := by
  have trail : Trail o (before.steps ++ t :: after.steps) s := by
    simpa [Entries.steps] using chronicle.trail
  exact {
    covers := by
      intro c r there returned
      obtain ⟨_, c', here, covers⟩ := trail.covers begins
      cases there.symm.trans here
      simp only [Caller.Covers, returned] at covers
      refine ⟨covers.1, fun w inside => chronicle.done_with ?_⟩
      simpa [Entries.steps] using covers.2 w inside
    delivered := chronicle.timed.history.delivers
    begins := (begins.after trail.split.2).1
    harmless := by
      intro u member part
      obtain ⟨between, beyond, rest⟩ := List.mem_iff_append.mp member
      rw [rest, ← List.cons_append, ← List.append_assoc] at trail
      obtain ⟨shorter, taken⟩ := trail.split
      exact shorter.harmless begins taken part
    idle := by
      intro u member c label here stopping idle
      obtain ⟨_, taken⟩ := trail.of_mem (List.mem_append_right _ (List.mem_cons_of_mem _ member))
      rw [label, State.step_halt_of_idle here stopping idle] at taken
      obtain ⟨after, asked⟩ := Prod.mk.inj (Option.some.inj taken)
      exact ⟨after.symm, asked.symm⟩ }

/-- The stop waits for the start that has launched the worker, and then for the worker, which does not
heed it. -/
theorem stop_covers_after_start : ∃ (now since : Nat) (before after : Entries) (t : Taken) (s : State),
    Chronicle .plain now (before ++ (since, t) :: after) s ∧ t.BeginsStop 1 ∧
    t.before.workers.length = 1 ∧ t.before.lifecycle.phase = .starting ∧
    s.callers.map Caller.point = [.awaitingStart 0, .returned (.ok .null)] ∧
    s.hasEnded 0 = false ∧
    StopCovers .plain (before ++ (since, t) :: after).log 1 t after.steps s := by
  let launched : List Label := [.enter .start, .caller 0 .act, .start 0 .act,
    .start 0 (.launchReturned (.ok (some 1001)))]
  let rest : List Label := [.caller 1 .act, .start 0 .act, .start 0 .act,
    .start 0 (.checkReturned true), .start 0 .act, .start 0 .act, .start 0 .act, .caller 1 .act,
    .caller 1 .act, .stop 0 .act, .stop 0 .timeUp, .stop 0 .act, .stop 0 .act, .caller 1 .act]
  have first : ({} : State).run .plain launched = some _ := rfl
  obtain ⟨_, before, chronicle⟩ := Chronicle.new.run first
  have entered := chronicle.step (Nat.le_refl _) (l := .enter .stop) trivial rfl
  obtain ⟨now, after, whole⟩ := entered.run (show _ = some _ from (rfl : State.run _ .plain rest = _))
  rw [List.append_assoc, List.singleton_append] at whole
  exact ⟨now, _, [] ++ before, after, _, _, whole, .call rfl, rfl, rfl, rfl, rfl,
    stop_covers whole (.call rfl)⟩

end MissionWorker.Supervisor
