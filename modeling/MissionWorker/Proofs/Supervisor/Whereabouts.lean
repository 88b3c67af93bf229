import MissionWorker.Proofs.Supervisor.Delivery
import MissionWorker.Proofs.Supervisor.SingleFlight
import MissionWorker.Proofs.Supervisor.Timing

namespace MissionWorker.Supervisor

variable {o : Options} {s s' : State} {l : Label} {asked more : List Event} {op w : Nat}

theorem State.step_outlasted (taken : s.step o l = some (s', more)) (waited : .outlasted w ∈ more) :
    (∃ op e live, l = .start op .timeUp ∧ s.starts[op]? = some (.terminating e live) ∧
        live.worker = w) ∨
      ∃ op live, l = .stop op .timeUp ∧ s.stops[op]? = some (.terminating live) ∧ live.worker = w := by
  cases State.step_move taken with
  | enter | monitor => cases waited
  | start here move =>
    cases move with
    | @outlast e live =>
      cases List.mem_singleton.mp waited
      exact .inl ⟨_, e, live, rfl, here, rfl⟩
    | watch move => cases move <;> simp at waited
    | _ => simp at waited
  | stop here move =>
    cases move with
    | @outlast live =>
      cases List.mem_singleton.mp waited
      exact .inr ⟨_, live, rfl, here, rfl⟩
    | _ => simp at waited
  | caller here move => cases move <;> simp at waited
  | worker here held move => cases move <;> simp at waited

/-- Who waits for a worker to end has asked it to, at the time when it began to wait. -/
structure Waiting (o : Options) (log : Log) (s : State) : Prop where
  start : ∀ {op : Nat} {e : StartupError} {live : Live}, s.starts[op]? = some (.terminating e live) →
    ∃ since, (since, .terminate live.worker (.graceful o.stopTimeout)) ∈ log ∧
      (since, .awaitEnd op) ∈ log
  stop : ∀ {op : Nat} {live : Live}, s.stops[op]? = some (.terminating live) →
    ∃ since, (since, .terminate live.worker (.graceful o.stopTimeout)) ∈ log ∧
      (since, .awaitStop op) ∈ log

variable {now : Nat} {log : Log}

theorem Waiting.step (h : Waiting o log s) (taken : s.step o l = some (s', more)) (now : Nat) :
    Waiting o (log ++ more.map (now, ·)) s' where
  start := by
    intro op e live there
    rcases (State.step_starts taken).origin there with old | ⟨p, _, a, _, move, leads⟩ | ⟨_, made, _⟩
    · obtain ⟨since, asked, waits⟩ := h.start old
      exact ⟨since, List.mem_append_left _ asked, List.mem_append_left _ waits⟩
    · cases leads with
      | watch watched still => simp [StartPoint.watched?] at still
      | terminate =>
        cases move with
        | terminate => exact ⟨now, by simp⟩
        | spare =>
          rw [State.setStart, List.getElem?_set] at there
          simp at there
        | watch move =>
          obtain ⟨_, watched, _⟩ := move.watched
          cases watched
    · cases made
  stop := by
    intro op live there
    rcases (State.step_stops taken).origin there with old | ⟨p, _, a, _, move, leads⟩ | ⟨_, _, _, made⟩
    · obtain ⟨since, asked, waits⟩ := h.stop old
      exact ⟨since, List.mem_append_left _ asked, List.mem_append_left _ waits⟩
    · cases leads with
      | terminate =>
        cases move with
        | terminate => exact ⟨now, by simp⟩
        | spare =>
          rw [State.setStop, List.getElem?_set] at there
          simp at there
    · cases made

theorem Timed.waiting (timed : Timed o now log s) : Waiting o log s := by
  induction timed with
  | new => exact ⟨by simp, by simp⟩
  | step _ _ _ taken h => exact h.step taken _

/-- A worker was asked to end, and was waited for until the stop timeout was over. -/
def Outwaited (o : Options) (log : Log) (w : Nat) : Prop :=
  ∃ since till, (since, .terminate w (.graceful o.stopTimeout)) ∈ log ∧ (till, .outlasted w) ∈ log ∧
    since + o.stopTimeout ≤ till

theorem Timed.outwaited (timed : Timed o now log s) :
    ∀ {till w : Nat}, (till, .outlasted w) ∈ log → Outwaited o log w := by
  induction timed with
  | new => simp
  | @step before now log s s' l asked timed onward punctual taken ih =>
    intro till w member
    rcases List.mem_append.mp member with old | new
    · obtain ⟨since, till, requested, waited, long⟩ := ih old
      exact ⟨since, till, List.mem_append_left _ requested, List.mem_append_left _ waited, long⟩
    · obtain ⟨e, waited, same⟩ := List.mem_map.mp new
      cases same
      have h := timed.waiting
      rcases State.step_outlasted taken waited with ⟨op, e, live, rfl, here, rfl⟩ | ⟨op, live, rfl, here, rfl⟩
      · obtain ⟨since, requested, waits⟩ := h.start here
        exact ⟨since, now, List.mem_append_left _ requested, member, punctual since waits⟩
      · obtain ⟨since, requested, waits⟩ := h.stop here
        exact ⟨since, now, List.mem_append_left _ requested, member, punctual since waits⟩

/-- Where a worker may be that has not ended: with the start operation that launched it; in use; with
a failed start operation that has asked it to end and waits; with a stop operation, whose first step
is to ask it; or with nobody, after it was waited for in vain. -/
inductive Situation where
  | starting (op : Nat)
  | inUse
  | abandoned (op : Nat)
  | stopping (op : Nat)
  | outwaited

def Keeper.situation : Keeper → Bool → Situation
  | .start op, false => .starting op
  | .start op, true => .abandoned op
  | .lifecycle, _ => .inUse
  | .stop op, _ => .stopping op

inductive State.Places (s : State) (o : Options) (log : Log) (w : Nat) : Situation → Prop where
  | held {k : Keeper} {once : Bool} (held : s.held? k = some (w, once)) :
    Places s o log w (k.situation once)
  | outwaited (waited : Outwaited o log w) : Places s o log w .outwaited

/-- What can be relied on of all workers in a state. -/
structure NoneLost (o : Options) (log : Log) (s : State) : Prop where
  placed : ∀ {w : Nat}, w < s.workers.length → s.hasEnded w = false →
    ∃ place, s.Places o log w place ∧ ∀ other, s.Places o log w other → other = place
  asked_once : ∀ w, terminations (log.map Prod.snd) w ≤ 1
  requests : ∀ {w : Nat} {c : Child.Channel}, s.workers[w]? = some c →
    c.requests.length ≤ terminations (log.map Prod.snd) w
  sent : ∀ {l : Label} {s' : State} {more : List Event} {w : Nat} {mode : Child.Termination},
    s.step o l = some (s', more) → .terminate w mode ∈ more →
      ∃ c, s.workers[w]? = some c ∧ c.report = none ∧
        c.act (.terminate mode) = (.sent, c.terminate mode) ∧
        s'.workers[w]? = some (c.terminate mode)
  delivered : s.Delivers o (log.map Prod.snd)
  idle : s.lifecycle.phase = .idle → ∀ {w : Nat}, w < s.workers.length →
    s.hasEnded w = true ∨ Outwaited o log w
  launch : ∀ {l : Label} {s' : State} {more : List Event} {op : Nat},
    s.step o l = some (s', more) → .launch op ∈ more → ∀ {w : Nat}, w < s.workers.length →
      s.hasEnded w = true ∨ Outwaited o log w

theorem Timed.placed (timed : Timed o now log s) (inside : w < s.workers.length) :
    s.hasEnded w = true ∨ (∃ once, s.Holds (w, once)) ∨ Outwaited o log w := by
  rcases timed.history.accounted.placed inside with ended | held | waited
  · exact .inl ended
  · exact .inr (.inl held)
  · obtain ⟨⟨till, e⟩, member, rfl⟩ := List.mem_map.mp waited
    exact .inr (.inr (timed.outwaited member))

theorem Timed.places_unique (timed : Timed o now log s) {place other : Situation}
    (here : s.Places o log w place) (there : s.Places o log w other) : other = place := by
  have h := timed.reachable.coherent
  have never {k : Keeper} {once : Bool} (held : s.held? k = some (w, once)) : ¬ Outwaited o log w := by
    rintro ⟨_, till, _, waited, _⟩
    have accounted := timed.history.accounted
    exact (accounted.held ⟨k, held⟩).2.1 (List.mem_map.mpr ⟨_, waited, rfl⟩)
  cases here with
  | held held =>
    cases there with
    | held also =>
      obtain ⟨rfl, same⟩ := h.keeper_unique held also
      cases same
      rfl
    | outwaited waited => exact absurd waited (never held)
  | outwaited waited =>
    cases there with
    | held also => exact absurd waited (never also)
    | outwaited => rfl

theorem Coherent.holds_of_launch (h : Coherent s) (taken : s.step o l = some (s', more))
    (launch : .launch op ∈ more) (handle : Nat × Bool) : ¬ s.Holds handle := by
  obtain ⟨_, here⟩ := State.step_launch taken launch
  have gone := (h.start_fits here).1
  rw [State.holds_without gone (h.holds_at_start here rfl)]
  intro held
  cases held

theorem no_worker_lost (timed : Timed o now log s) : NoneLost o log s := by
  have h := timed.reachable.coherent
  -- Where nobody holds a handle, all workers are done with.
  have done (free : ∀ handle, ¬ s.Holds handle) {w : Nat} (inside : w < s.workers.length) :
      s.hasEnded w = true ∨ Outwaited o log w := by
    rcases timed.placed inside with ended | ⟨once, held⟩ | waited
    · exact .inl ended
    · exact absurd held (free _)
    · exact .inr waited
  exact {
    placed := by
      intro w inside alive
      rcases timed.placed inside with ended | ⟨once, k, held⟩ | waited
      · simp [ended] at alive
      · exact ⟨_, .held held, fun other there => timed.places_unique (.held held) there⟩
      · exact ⟨_, .outwaited waited, fun other there => timed.places_unique (.outwaited waited) there⟩
    asked_once := timed.history.accounted.once
    requests := timed.history.requests
    sent := fun taken told => timed.reachable.step_terminate taken told
    delivered := timed.history.delivers
    idle := fun idle => done (h.holds_of_idle idle)
    launch := fun taken launch => done (h.holds_of_launch taken launch) }

/-- A worker that does not heed being asked to end is let go after the stop timeout. -/
theorem no_worker_lost_after_timeout : ∃ now log s, Timed .plain now log s ∧
    s.lifecycle.phase = .idle ∧ s.workers.length = 1 ∧ s.hasEnded 0 = false ∧
    NoneLost .plain log s := by
  let labels : List Label := Label.smoothStart ++
    [.enter .stop, .caller 1 .act, .stop 0 .act, .stop 0 .timeUp, .stop 0 .act]
  obtain ⟨now, log, timed, _⟩ := History.timed (o := .plain) ⟨labels, rfl⟩
  exact ⟨now, log, _, timed, rfl, rfl, rfl, no_worker_lost timed⟩

end MissionWorker.Supervisor
