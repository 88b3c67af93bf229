import MissionWorker.Proofs.Supervisor.Readiness
import MissionWorker.Proofs.Supervisor.StaleReady

namespace MissionWorker.Supervisor

variable {o : Options} {s s' : State} {l : Label} {more : List Event} {steps : List Taken}
  {op : Nat} {p q : StartPoint} {live : Live}

structure Taken.TakesAway (t : Taken) (live : Live) : Prop where
  ready : t.before.lifecycle.phase = .ready
  held : t.before.lifecycle.live = some live
  gone : t.after.lifecycle.live = none
  cause : (∃ i m, t.label = .monitor i ∧ t.before.monitors[i]? = some m ∧
      m.live.generation = live.generation ∧ (t.before.outcome? live.worker).isSome) ∨
    ∃ i c, t.label = .caller i .act ∧ t.before.callers[i]? = some c ∧
      (c.point = .stopping ∨ c.point = .restarting live.generation)

theorem Reachable.step_away (reachable : Reachable o s) (taken : s.step o l = some (s', more))
    (ready : s.lifecycle.phase = .ready) (held : s.lifecycle.live = some live) :
    (s'.lifecycle.phase = .ready ∧ s'.lifecycle.live = some live) ∨
      Taken.TakesAway ⟨s, l, s', more⟩ live := by
  have h := reachable.coherent
  cases State.step_move taken with
  | enter | worker => exact .inl ⟨ready, held⟩
  | @start _ p _ _ _ here move =>
    -- An open start operation would have the lifecycle starting.
    have closed : p.isOpen = false := by
      refine Bool.eq_false_iff.mpr fun opened => ?_
      cases ready.symm.trans (h.phase_of_start here opened)
    cases move with
    | publish => exact .inl ⟨ready, held⟩
    | watch move =>
      obtain ⟨_, watched, _⟩ := move.watched
      rw [StartPoint.isOpen_of_watched watched] at closed
      cases closed
    | _ => cases closed
  | stop here move =>
    cases move with
    | clear => cases ready.symm.trans (h.phase_of_stop here rfl)
    | _ => exact .inl ⟨ready, held⟩
  | @monitor i m _ here pending ended move =>
    cases move with
    | pass => exact .inl ⟨ready, held⟩
    | demote current same _ =>
      cases held.symm.trans current
      have own := reachable.monitor_live here held ready same
      rw [own] at ended
      exact .inr ⟨ready, held, rfl, .inl ⟨i, m, rfl, here, same.symm, ended⟩⟩
  | @caller i c _ _ _ _ here move =>
    cases move with
    | restart at_ _ current =>
      cases held.symm.trans current
      exact .inr ⟨ready, held, rfl, .inr ⟨i, c, rfl, here, .inr at_⟩⟩
    | halt at_ _ current =>
      cases held.symm.trans current
      exact .inr ⟨ready, held, rfl, .inr ⟨i, c, rfl, here, .inl at_⟩⟩
    | create _ _ idle => cases ready.symm.trans idle
    | haltEmpty _ _ missing => cases held.symm.trans missing
    | _ => exact .inl ⟨ready, held⟩

/-- The worker that an operation called ready is ready still. -/
def Lasting (s : State) (op : Nat) (steps : List Taken) : Prop :=
  ∃ live, ∃ t ∈ steps, Taken.Promotes t op live ∧ s.lifecycle.phase = .ready ∧
    s.lifecycle.live = some live

def Undone (op : Nat) (steps : List Taken) : Prop :=
  ∃ live promote away, Taken.Promotes promote op live ∧ Taken.TakesAway away live ∧
    [promote, away].Sublist steps

theorem Lasting.step (lasting : Lasting s op steps) (reachable : Reachable o s)
    (taken : s.step o l = some (s', more)) :
    Lasting s' op (steps ++ [⟨s, l, s', more⟩]) ∨ Undone op (steps ++ [⟨s, l, s', more⟩]) := by
  obtain ⟨live, t, member, promotes, ready, held⟩ := lasting
  rcases reachable.step_away taken ready held with ⟨still, same⟩ | away
  · exact .inl ⟨live, t, List.mem_append_left _ member, promotes, still, same⟩
  · have before : [t].Sublist steps := List.singleton_sublist.mpr member
    exact .inr ⟨live, t, _, promotes, away, before.append (List.Sublist.refl [_])⟩

theorem Undone.onward (undone : Undone op steps) (later : List Taken) : Undone op (steps ++ later) := by
  obtain ⟨live, promote, away, promotes, takes, within⟩ := undone
  exact ⟨live, promote, away, promotes, takes, within.trans (List.sublist_append_left _ _)⟩

def StartPoint.succeeds : StartPoint → Bool
  | .resolved (.ok _) | .published (.ok _) => true
  | _ => false

theorem Coherent.step_succeeds (h : Coherent s) (taken : s.step o l = some (s', more))
    (there : s'.starts[op]? = some q) (success : q.succeeds = true) :
    (∃ p, s.starts[op]? = some p ∧ p.succeeds = true) ∨
      ∃ live, Taken.Promotes ⟨s, l, s', more⟩ op live := by
  rcases (State.step_starts taken).origin there with
    old | ⟨p, here, a, rfl, move, leads⟩ | ⟨_, rfl, _⟩
  · exact .inl ⟨q, old, success⟩
  · cases leads with
    | watch watched still => cases q <;> simp_all [StartPoint.watched?, StartPoint.succeeds]
    | promote =>
      cases move with
      | promote admitting held _ alive =>
        exact .inr ⟨_, rfl, h.promotes here admitting held alive⟩
      | watch move =>
        obtain ⟨_, _, still | ⟨_, failed, _⟩⟩ := move.watched
        · rw [← State.setStart_point here there] at still
          cases still
        · rw [← State.setStart_point here there] at failed
          cases failed
    | @publish r =>
      cases r with
      | ok => exact .inl ⟨_, here, rfl⟩
      | error => cases success
    | _ => cases success
  · cases success

theorem Trail.lasting_or_undone (trail : Trail o steps s) :
    ∀ {op : Nat} {p : StartPoint}, s.starts[op]? = some p → p.succeeds = true →
      Lasting s op steps ∨ Undone op steps := by
  induction trail with
  | new => simp
  | @step steps s s' l asked trail taken ih =>
    intro op q there success
    have coherent := trail.reachable.coherent
    rcases coherent.step_succeeds taken there success with ⟨p, here, before⟩ | ⟨live, promotes⟩
    · rcases ih here before with lasting | undone
      · exact lasting.step trail.reachable taken
      · exact .inr (undone.onward _)
    · have ready := promotes.2.ready
      have held := promotes.2.still_held
      exact .inl ⟨live, _, List.mem_concat_self, promotes, ready, held⟩

def CallerPoint.afterStart : Except StartupError Unit → CallerPoint
  | .ok _ => .ensuring
  | .error e => .returned (.error (.startup e))

theorem CallerMove.of_awaitingStart {i : Nat} {c c' : Caller}
    (move : CallerMove o s i c .act s' c' more) (awaits : c.point = .awaitingStart op) :
    ∃ r, s.startOutcome? op = some r ∧ c' = { c with point := .afterStart r } := by
  cases move with
  | started at_ told =>
    cases awaits.symm.trans at_
    exact ⟨_, told, rfl⟩
  | startFailed at_ told =>
    cases awaits.symm.trans at_
    exact ⟨_, told, rfl⟩
  | stopped at_ => rcases at_ with at_ | at_ <;> cases awaits.symm.trans at_
  | _ => simp_all

theorem Trail.still_told (trail : Trail o steps s) {r : Except StartupError Unit} :
    ∀ t ∈ steps, t.before.startOutcome? op = some r → s.startOutcome? op = some r := by
  induction trail with
  | new => simp
  | step trail taken ih =>
    intro t member told
    apply State.step_startOutcome? taken
    rcases List.mem_append.mp member with earlier | last
    · exact ih t earlier told
    · rw [List.mem_singleton.mp last] at told
      exact told

def Caller.Served (c : Caller) (generation : Nat) (s : State) (i : Nat) : Prop :=
  s.callers[i]? = some { c with point := State.finished } ∨
    s.callers[i]? = some { c with point := .ensured generation }

theorem Caller.Served.step {c : Caller} {generation i : Nat} (wants : c.job = .start)
    (served : c.Served generation s i) (taken : s.step o l = some (s', more)) :
    c.Served generation s' i := by
  rcases served with here | here
  · obtain ⟨c', there, rfl | ⟨_, _, _, _, move⟩⟩ := (State.step_callers taken).onward here
    · exact .inl there
    · exact absurd rfl (move.unfinished.2 _)
  · obtain ⟨c', there, rfl | ⟨a, _, _, _, move⟩⟩ := (State.step_callers taken).onward here
    · exact .inr there
    · left
      cases move with
      | drop waiting => cases waiting
      | finish => exact there
      | call _ wanted => cases wants.symm.trans wanted
      | stopped at_ => rcases at_ with at_ | at_ <;> cases at_
      | _ => simp_all

/-- Two steps of its own are left to a caller until it comes back without a failure, and they change
nothing but the caller, whatever happens between them. -/
structure State.Grants (s : State) (o : Options) (i : Nat) (c : Caller) (generation : Nat) :
    Prop where
  finds : s.step o (.caller i .act) =
    some (s.setCaller i { c with point := .ensured generation }, [])
  returns : ∀ {labels : List Label} {u : State} {more : List Event},
    (s.setCaller i { c with point := .ensured generation }).run o labels = some (u, more) →
    u.callers[i]? = some { c with point := .returned (.ok .null) } ∨
      u.step o (.caller i .act) =
        some (u.setCaller i { c with point := .returned (.ok .null) }, [])

theorem Reachable.grants (reachable : Reachable o s) {i : Nat} {c : Caller}
    (here : s.callers[i]? = some c) (wants : c.job = .start) (ensuring : c.point = .ensuring)
    (admitting : s.lifecycle.shuttingDown = false) (ready : s.lifecycle.phase = .ready)
    (held : s.lifecycle.live = some live) : s.Grants o i c live.generation := by
  have finds : s.step o (.caller i .act) =
      some (s.setCaller i { c with point := .ensured live.generation }, []) := by
    simp [State.step, here, State.stepCaller, ensuring, State.ensure, admitting, ready, held,
      State.quietly]
  refine ⟨finds, ?_⟩
  intro labels u more goes
  have bound := (List.getElem?_eq_some_iff.mp here).1
  have now : c.Served live.generation
      (s.setCaller i { c with point := .ensured live.generation }) i :=
    .inr (List.getElem?_set_self bound)
  have kept {v v' : State} {l : Label} {asked : List Event} (_ : Reachable o v)
      (served : c.Served live.generation v i) (taken : v.step o l = some (v', asked)) :
      c.Served live.generation v' i := served.step wants taken
  have later := (reachable.step finds).stays kept now goes
  rcases later with back | found
  · exact .inl back
  · right
    simp [State.step, found, State.stepCaller, wants, State.quietly, State.finished]

/-- What can be relied on of those who wait for start operations, after a run with all its steps. -/
structure StartShared (o : Options) (steps : List Taken) (s : State) : Prop where
  once : ∀ op, launches (steps.flatMap Taken.asked) op ≤ 1
  told : ∀ t ∈ steps, ∀ {i op : Nat} {c : Caller}, t.label = .caller i .act →
    t.before.callers[i]? = some c → c.point = .awaitingStart op →
    ∃ r, s.startOutcome? op = some r ∧ t.after.callers[i]? = some { c with point := .afterStart r }
  /-- One who looks after a success comes back with it, unless a shutdown or the worker's loss has
  come between. -/
  looks : ∀ {i op : Nat} {c : Caller}, s.callers[i]? = some c → c.job = .start →
    c.point = .ensuring → s.startOutcome? op = some (.ok ()) →
    s.lifecycle.shuttingDown = true ∨ (∃ generation, s.Grants o i c generation) ∨ Undone op steps
  again : ∀ {i op : Nat} {c : Caller} {s' : State} {more : List Event}, s.callers[i]? = some c →
    s.startOutcome? op = some (.ok ()) → s.step o (.caller i .act) = some (s', more) →
    s'.starts ≠ s.starts → s.lifecycle.phase = .idle ∧ Undone op steps

theorem start_shared (trail : Trail o steps s) : StartShared o steps s := by
  have reachable := trail.reachable
  -- What a success is worth later on carries both of the last two statements.
  have success {op : Nat} (told : s.startOutcome? op = some (.ok ())) :
      Lasting s op steps ∨ Undone op steps := by
    rcases State.startOutcome?_eq_some_iff.mp told with published | ⟨_, failed⟩
    · exact trail.lasting_or_undone published rfl
    · cases failed
  exact {
    once := by
      intro op
      rw [trail.history.launched_once]
      exact Bool.toNat_le _
    told := by
      intro t member i op c label here awaits
      obtain ⟨_, taken⟩ := trail.of_mem member
      rw [label] at taken
      obtain ⟨c', after, s₁, own, there, _, move, _⟩ := State.step_own taken
      cases here.symm.trans own
      obtain ⟨r, told, rfl⟩ := move.of_awaitingStart awaits
      exact ⟨r, trail.still_told t member told, there⟩
    looks := by
      intro i op c here wants ensuring told
      by_cases closing : s.lifecycle.shuttingDown = true
      · exact .inl closing
      · have admitting : s.lifecycle.shuttingDown = false := by simpa using closing
        rcases success told with ⟨live, _, _, _, ready, held⟩ | undone
        · exact .inr (.inl ⟨_, reachable.grants here wants ensuring admitting ready held⟩)
        · exact .inr (.inr undone)
    again := by
      intro i op c s' more here told taken another
      obtain ⟨before, c', s₁, own, _, rfl, move, _⟩ := State.step_own taken
      rcases move.starts with same | creates
      · exact absurd same another
      · rcases success told with ⟨_, _, _, _, ready, _⟩ | undone
        · cases ready.symm.trans creates.idle
        · exact ⟨creates.idle, undone⟩ }

def Label.joining : List Label :=
  [.enter .start, .caller 0 .act, .enter .stop, .caller 1 .act, .enter .start, .caller 2 .act]

def Label.startUp (op : Nat) : List Label :=
  [.start op .act, .start op (.launchReturned (.ok (some 1001))), .start op .act, .start op .act,
    .start op (.checkReturned true), .start op .act, .start op .act, .start op .act]

def Label.stopOver : List Label :=
  [.caller 1 .act, .caller 1 .act, .stop 0 .act, .worker 0 .receive,
    .worker 0 (.report (.signal 15)), .stop 0 .noticeEnd, .stop 0 .act, .stop 0 .act,
    .caller 1 .act]

theorem start_shared_while_stopping : ∃ steps s c, Trail .plain steps s ∧
    s.callers[2]? = some c ∧ c.point = .awaitingStart 0 ∧
    s.startOutcome? 0 = some (.ok ()) ∧ StartShared .plain steps s := by
  let labels : List Label := Label.joining ++ Label.startUp 0 ++ Label.stopOver
  obtain ⟨steps, trail, _⟩ := History.trail (o := .plain) ⟨labels, rfl⟩
  exact ⟨steps, _, _, trail, rfl, rfl, rfl, start_shared trail⟩

/-- Where the stop is the first to go on, the starts that waited with it undo it: they launch another
worker, though the operation they waited for has succeeded and nobody has asked for anything since. -/
theorem start_undoes_stop : ∃ s s' labels more, Reachable .plain s ∧
    s.callers.map Caller.job = [.start, .stop, .start] ∧
    s.callers.map Caller.point = [.awaitingStart 0, .outwaitingStart 0, .awaitingStart 0] ∧
    s.spawns = 0 ∧ (∀ job, .enter job ∉ labels) ∧ s.run .plain labels = some (s', more) ∧
    s'.startOutcome? 0 = some (.ok ()) ∧ .launch 1 ∈ more ∧ s'.spawns = 2 ∧
    s'.callers.map Caller.point = [State.finished, State.finished, State.finished] ∧
    s'.lifecycle.phase = .ready := by
  let looks : List Label := [.caller 0 .act, .caller 0 .act, .caller 2 .act, .caller 2 .act]
  let labels : List Label := Label.startUp 0 ++ Label.stopOver ++ looks ++ Label.startUp 1 ++
    looks ++ [.caller 0 .act, .caller 2 .act]
  refine ⟨_, _, labels, _, ⟨Label.joining, _, rfl⟩, rfl, rfl, rfl, ?_, rfl, rfl, ?_, rfl, rfl, rfl⟩
  · simp [labels, looks, Label.startUp, Label.stopOver]
  · simp

end MissionWorker.Supervisor
