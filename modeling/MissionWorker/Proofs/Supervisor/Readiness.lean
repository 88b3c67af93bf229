import MissionWorker.Proofs.Supervisor.Diary

namespace MissionWorker.Supervisor

variable {o : Options} {s s' : State} {l : Label} {more : List Event} {steps ts : List Taken}
  {op : Nat} {p q : StartPoint} {live : Live}

/-- A step takes a start operation from one point to another. -/
structure Taken.Moves (t : Taken) (op : Nat) (p : StartPoint) (a : StartAct) (q : StartPoint) :
    Prop where
  label : t.label = .start op a
  before : t.before.starts[op]? = some p
  after : t.after.starts[op]? = some q

/-- The steps that a start operation has behind it at a point, in that order, from the launch of its
worker on. Checks that failed are left out. -/
inductive Vetted (o : Options) (op : Nat) : StartPoint → List Taken → Prop where
  | launched {t : Taken} {pid : Option Nat} {w : Nat}
    (moves : t.Moves op .launching (.launchReturned (.ok pid)) (.launched w)) :
    Vetted o op (.launched w) [t]
  | registered {ts : List Taken} {t : Taken} {live : Live} (n : Nat)
    (so : Vetted o op (.launched live.worker) ts)
    (moves : t.Moves op (.launched live.worker) .act (.polling live 1))
    (next : live.generation = t.before.lifecycle.nextGeneration) :
    Vetted o op (.polling live n) (ts ++ [t])
  | checked {ts : List Taken} {t : Taken} {live : Live} {n : Nat}
    (so : Vetted o op (.polling live n) ts)
    (moves : t.Moves op (.polling live n) .act (.checking live n)) (asked : t.asked = [.check op]) :
    Vetted o op (.checking live n) (ts ++ [t])
  | paused {ts : List Taken} {live : Live} {n : Nat} (so : Vetted o op (.polling live n) ts) :
    Vetted o op (.pausing live n) ts
  | healthy {ts : List Taken} {t : Taken} {live : Live} {n : Nat}
    (so : Vetted o op (.checking live n) ts)
    (moves : t.Moves op (.checking live n) (.checkReturned true) (.healthy live)) :
    Vetted o op (.healthy live) (ts ++ [t])
  | reconciling {ts : List Taken} {t : Taken} {live : Live} (wanted : o.reconcile = true)
    (so : Vetted o op (.healthy live) ts)
    (moves : t.Moves op (.healthy live) .act (.reconciling live))
    (asked : t.asked = [.reconcile op]) :
    Vetted o op (.reconciling live) (ts ++ [t])
  | reconciled {ts : List Taken} {t : Taken} {live : Live} {r : Except Bridge.Error Json}
    (so : Vetted o op (.reconciling live) ts)
    (moves : t.Moves op (.reconciling live) (.reconcileReturned r) (.verified live)) :
    Vetted o op (.verified live) (ts ++ [t])
  | exempt {ts : List Taken} {live : Live} (unwanted : o.reconcile = false)
    (so : Vetted o op (.healthy live) ts) : Vetted o op (.verified live) ts

def Taken.Promotes (t : Taken) (op : Nat) (live : Live) : Prop :=
  t.label = .start op .act ∧ t.before.Promotes op live t.after

/-- A worker was vetted by the start operation that launched it, and then called ready. -/
def Certified (o : Options) (live : Live) (steps : List Taken) : Prop :=
  ∃ op ts t, Vetted o op (.verified live) ts ∧ Taken.Promotes t op live ∧
    (ts ++ [t]).Sublist steps

theorem Certified.onward (certified : Certified o live steps) (later : List Taken) :
    Certified o live (steps ++ later) := by
  obtain ⟨op, ts, t, vetted, promotes, within⟩ := certified
  exact ⟨op, ts, t, vetted, promotes, within.trans (List.sublist_append_left _ _)⟩

def StartPoint.hasWorker : StartPoint → Bool
  | .launched _ => true
  | p => p.watched?.isSome

theorem StartPoint.hasWorker_of_watched (watched : p.watched? = some live) :
    p.hasWorker = true := by
  cases p <;> simp_all [watched?, hasWorker]

def Vouched (o : Options) (op : Nat) (p : StartPoint) (steps : List Taken) : Prop :=
  ∃ ts, Vetted o op p ts ∧ ts.Sublist steps

theorem Vouched.onward (vouched : Vouched o op p steps) (later : List Taken) :
    Vouched o op p (steps ++ later) := by
  obtain ⟨ts, vetted, within⟩ := vouched
  exact ⟨ts, vetted, within.trans (List.sublist_append_left _ _)⟩

theorem State.setStart_point {r : StartPoint} (here : s.starts[op]? = some p)
    (there : (s.setStart op q).starts[op]? = some r) : r = q := by
  have bound := (List.getElem?_eq_some_iff.mp here).1
  rw [setStart, List.getElem?_set_self bound] at there
  exact (Option.some.inj there).symm

theorem State.register_point {w : Nat} {r : StartPoint} (here : s.starts[op]? = some p)
    (there : (s.register op w).starts[op]? = some r) :
    r = .polling { generation := s.lifecycle.nextGeneration, worker := w } 1 := by
  have same : s.starts[op]? = (s.releaseAny s.lifecycle.live).starts[op]? := by
    cases s.lifecycle.live <;> rfl
  exact State.setStart_point (same ▸ here) there

theorem WatchMove.vouched {a : StartAct} (move : WatchMove o s op p a q more)
    (moves : Taken.Moves ⟨s, .start op a, s', more⟩ op p a q) (kept : q.hasWorker = true)
    (vouched : Vouched o op p steps) : Vouched o op q (steps ++ [⟨s, .start op a, s', more⟩]) := by
  obtain ⟨ts, vetted, within⟩ := vouched
  have longer := within.append (List.Sublist.refl [(⟨s, .start op a, s', more⟩ : Taken)])
  have same := within.trans (List.sublist_append_left steps [⟨s, .start op a, s', more⟩])
  cases move with
  | check => exact ⟨_, .checked vetted moves rfl, longer⟩
  | healthy => exact ⟨_, .healthy vetted moves, longer⟩
  | pause =>
    -- A check that failed vouches for nothing, so its step is taken back.
    cases vetted with
    | checked so => exact ⟨_, .paused so, (List.sublist_append_left _ _).trans same⟩
  | again =>
    cases vetted with
    | paused so =>
      cases so with
      | registered _ so registers next => exact ⟨_, .registered _ so registers next, same⟩
  | reconcile wanted => exact ⟨_, .reconciling wanted vetted moves rfl, longer⟩
  | skip unwanted => exact ⟨_, .exempt unwanted vetted, same⟩
  | reconciled => exact ⟨_, .reconciled vetted moves, longer⟩
  | _ => cases kept

theorem StartMove.vouched {a : StartAct} (move : StartMove o s op p a s' more)
    (here : s.starts[op]? = some p) (there : s'.starts[op]? = some q) (kept : q.hasWorker = true)
    (vouched : p.hasWorker = true → Vouched o op p steps) :
    Vouched o op q (steps ++ [⟨s, .start op a, s', more⟩]) := by
  cases move with
  | spawn pid =>
    obtain rfl := State.setStart_point (s := s) here there
    exact ⟨_, .launched ⟨rfl, here, there⟩, List.sublist_append_right _ _⟩
  | register w =>
    obtain ⟨ts, vetted, within⟩ := vouched rfl
    obtain rfl := State.register_point here there
    exact ⟨_, .registered 1 vetted ⟨rfl, here, there⟩ rfl, within.append (List.Sublist.refl _)⟩
  | watch move =>
    obtain rfl := State.setStart_point here there
    obtain ⟨live, watched, _⟩ := move.watched
    exact move.vouched ⟨rfl, here, there⟩ kept (vouched (StartPoint.hasWorker_of_watched watched))
  | _ =>
    obtain rfl := State.setStart_point (s := s) here there
    cases kept

theorem Trail.vouched (trail : Trail o steps s) :
    ∀ {op : Nat} {p : StartPoint}, s.starts[op]? = some p → p.hasWorker = true →
      Vouched o op p steps := by
  induction trail with
  | new => simp
  | @step steps s s' l asked trail taken ih =>
    intro op q there kept
    rcases (State.step_starts taken).origin there with
      old | ⟨p, here, a, rfl, move, _⟩ | ⟨_, rfl, _⟩
    · exact (ih old kept).onward _
    · exact move.vouched here there kept (ih here)
    · cases kept

theorem Trail.certified (trail : Trail o steps s) (ready : s.lifecycle.phase = .ready)
    (held : s.lifecycle.live = some live) : Certified o live steps := by
  induction trail with
  | new => cases ready
  | @step steps s s' l asked trail taken ih =>
    rcases trail.reachable.coherent.step_ready taken ready held with
      ⟨already, current⟩ | ⟨op, rfl, promotes⟩
    · exact (ih already current).onward _
    · obtain ⟨ts, vetted, within⟩ := trail.vouched promotes.verified rfl
      exact ⟨op, ts, _, vetted, ⟨rfl, promotes⟩, within.append (List.Sublist.refl _)⟩

structure Taken.Finds (t : Taken) (i : Nat) (live : Live) : Prop where
  label : t.label = .caller i .act
  ensuring : ∃ c, t.before.callers[i]? = some c ∧ c.point = .ensuring ∧
    t.after.callers[i]? = some { c with point := .ensured live.generation }
  admitting : t.before.lifecycle.shuttingDown = false
  ready : t.before.lifecycle.phase = .ready
  held : t.before.lifecycle.live = some live

def Assured (o : Options) (i generation : Nat) (steps : List Taken) : Prop :=
  ∃ live before look between, live.generation = generation ∧ Certified o live before ∧
    Taken.Finds look i live ∧ steps = before ++ look :: between ∧
    ∀ t ∈ between, ∀ a, t.label ≠ .caller i a

theorem Trail.assured (trail : Trail o steps s) {i generation : Nat} {c : Caller}
    (there : s.callers[i]? = some c) (at_ : c.point = .ensured generation) :
    Assured o i generation steps := by
  induction trail generalizing c with
  | new => simp at there
  | @step steps s s' l asked trail taken ih =>
    by_cases own : ∃ a, l = .caller i a
    · obtain ⟨a, rfl⟩ := own
      obtain ⟨before, after, s₁, here, moved, rfl, move, _⟩ := State.step_own taken
      cases there.symm.trans moved
      cases move with
      | @find live ensuring admitting ready held =>
        cases at_
        exact ⟨live, steps, _, [], rfl, trail.certified ready held,
          ⟨rfl, ⟨before, here, ensuring, moved⟩, admitting, ready, held⟩, rfl, by simp⟩
      | @answer called r =>
        have unsure : (State.receiveAnswer o before called r).point ≠ .ensured generation := by
          cases r with
          | ok v => simp [State.receiveAnswer]
          | error e =>
            simp only [State.receiveAnswer]
            split <;> simp
        exact absurd at_ unsure
      | _ => simp [State.finished] at at_
    · -- Nobody else moves the caller, so the step only adds to what came since it looked.
      have other (a : CallerAct) : l ≠ .caller i a := fun same => own ⟨a, same⟩
      rcases (State.step_callers taken).origin there with
        old | ⟨_, _, a, _, same, _⟩ | ⟨_, job, _, rfl⟩
      · obtain ⟨live, before, look, between, same, certified, finds, rfl, still⟩ := ih old at_
        refine ⟨live, before, look, between ++ [⟨s, l, s', asked⟩], same, certified, finds, ?_, ?_⟩
        · simp
        · intro t member
          rcases List.mem_append.mp member with earlier | last
          · exact still t earlier
          · rw [List.mem_singleton.mp last]
            exact other
      · exact absurd same (other a)
      · cases job <;> cases at_

theorem CallerMove.of_ensured {i generation : Nat} {c c' : Caller} {endpoint : String}
    {payload : Option Json} (move : CallerMove o s i c .act s' c' more)
    (ensured : c.point = .ensured generation) (wanted : c.job = .request endpoint payload) :
    c' = { c with point := .calling generation } := by
  cases move with
  | call at_ =>
    cases ensured.symm.trans at_
    rfl
  | finish at_ other => exact absurd wanted (other _ _)
  | stopped at_ => rcases at_ with at_ | at_ <;> cases ensured.symm.trans at_
  | _ => simp_all

/-- What stands behind a call: the caller, the generation it calls under, and what came before. -/
structure Gated (o : Options) (earlier : List Taken) (t : Taken) (i generation : Nat)
    (endpoint : String) (payload : Option Json) : Prop where
  dispatched : ∃ c, t.before.callers[i]? = some c ∧ c.job = .request endpoint payload ∧
    c.point = .ensured generation ∧
    t.after.callers[i]? = some { c with point := .calling generation }
  assured : Assured o i generation earlier

theorem readiness_gate {earlier later : List Taken} {t : Taken} {i : Nat} {endpoint : String}
    {payload : Option Json} (trail : Trail o (earlier ++ t :: later) s)
    (called : .call i endpoint payload ∈ t.asked) :
    ∃ generation, Gated o earlier t i generation endpoint payload := by
  obtain ⟨before, taken⟩ := trail.split
  obtain ⟨act, c, generation, here, wanted, ensured⟩ := State.step_call taken called
  refine ⟨generation, ⟨c, here, wanted, ensured, ?_⟩, before.assured here ensured⟩
  rw [act] at taken
  obtain ⟨c', after, s₁, own, there, _, move, _⟩ := State.step_own taken
  cases here.symm.trans own
  rw [there, move.of_ensured ensured wanted]

/-- The first health check fails, the second is passed, and the worker is reconciled. -/
theorem readiness_gate_after_reconciliation : ∃ o earlier t later s,
    o.reconcile = true ∧ Trail o (earlier ++ t :: later) s ∧ .call 0 "/health" none ∈ t.asked ∧
    ∃ generation, Gated o earlier t 0 generation "/health" none := by
  let o : Options := { Options.plain with
    probe := { maxAttempts := 2, interval := 500 }
    reconcile := true }
  let go : Label := .caller 0 .act
  let labels : List Label := [.enter (.request "/health" none), go, .start 0 .act,
    .start 0 (.launchReturned (.ok none)), .start 0 .act, .start 0 .act,
    .start 0 (.checkReturned false), .start 0 .pauseOver, .start 0 .act,
    .start 0 (.checkReturned true), .start 0 .act, .start 0 (.reconcileReturned (.ok .null)),
    .start 0 .act, .start 0 .act, go, go, go]
  obtain ⟨steps, trail, asks⟩ := History.trail (o := o) ⟨labels, rfl⟩
  have called : .call 0 "/health" none ∈ steps.flatMap Taken.asked := by
    rw [asks]
    simp
  obtain ⟨t, member, dispatched⟩ := List.mem_flatMap.mp called
  obtain ⟨earlier, later, rfl⟩ := List.mem_iff_append.mp member
  exact ⟨o, earlier, t, later, _, rfl, trail, dispatched, readiness_gate trail dispatched⟩

end MissionWorker.Supervisor
