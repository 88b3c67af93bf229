import MissionWorker.Proofs.Supervisor.Patience
import MissionWorker.Proofs.Supervisor.Probing
import MissionWorker.Proofs.Supervisor.Sharing

namespace MissionWorker.Supervisor

variable {o : Options} {s s' : State} {l : Label} {asked more : List Event} {op w : Nat}
  {p q : StartPoint} {live : Live} {steps : List Taken}

def Taken.Passes (t : Taken) (op : Nat) (live : Live) (attempt : Nat) : Prop :=
  t.Moves op (.checking live attempt) (.checkReturned true) (.healthy live)

theorem Vetted.passes {ts : List Taken} (vetted : Vetted o op (.verified live) ts) :
    ∃ t ∈ ts, ∃ attempt, t.Passes op live attempt := by
  have healthy {ts : List Taken} (so : Vetted o op (.healthy live) ts) :
      ∃ t ∈ ts, ∃ attempt, t.Passes op live attempt := by
    cases so with
    | healthy _ moves => exact ⟨_, List.mem_concat_self, _, moves⟩
  cases vetted with
  | reconciled so moves =>
    cases so with
    | reconciling _ so _ _ =>
      obtain ⟨t, member, passes⟩ := healthy so
      exact ⟨t, List.mem_append_left _ (List.mem_append_left _ member), passes⟩
  | exempt _ so => exact healthy so

/-- A worker was vetted by the operation that launched it, with no more checks than it may make, and
then called ready. -/
structure Earned (o : Options) (op : Nat) (steps : List Taken) (live : Live) (ts : List Taken)
    (t : Taken) : Prop where
  vetted : Vetted o op (.verified live) ts
  promotes : Taken.Promotes t op live
  within : (ts ++ [t]).Sublist steps
  passes : ∃ u ∈ ts, ∃ attempt, u.Passes op live attempt ∧ attempt ≤ o.attempts

theorem Trail.promoted (trail : Trail o steps s) (here : s.starts[op]? = some p)
    (success : p.succeeds = true) : ∃ live, ∃ t ∈ steps, Taken.Promotes t op live := by
  rcases trail.lasting_or_undone here success with
    ⟨live, t, member, promotes, _⟩ | ⟨live, t, away, promotes, _, within⟩
  · exact ⟨live, t, member, promotes⟩
  · exact ⟨live, t, within.subset List.mem_cons_self, promotes⟩

theorem Trail.passes_within (trail : Trail o steps s) {t : Taken} (member : t ∈ steps)
    {attempt : Nat} (passes : t.Passes op live attempt) : attempt ≤ o.attempts := by
  obtain ⟨reachable, _⟩ := trail.of_mem member
  obtain ⟨asked, history⟩ := Reachable.iff_history.mp reachable
  have known := history.checked op
  simp only [passes.before] at known
  exact known.2

theorem Trail.earned (trail : Trail o steps s) (here : s.starts[op]? = some p)
    (success : p.succeeds = true) : ∃ live ts t, Earned o op steps live ts t := by
  obtain ⟨live, t, member, promotes⟩ := trail.promoted here success
  obtain ⟨earlier, later, rfl⟩ := List.mem_iff_append.mp member
  obtain ⟨before, _⟩ := trail.split
  obtain ⟨ts, vetted, within⟩ := before.vouched promotes.2.verified rfl
  obtain ⟨u, among, attempt, passes⟩ := vetted.passes
  have few := before.passes_within (within.subset among) passes
  have all : (ts ++ [t]).Sublist (earlier ++ t :: later) :=
    within.append (List.singleton_sublist.mpr List.mem_cons_self)
  exact ⟨live, ts, t, vetted, promotes, all, u, among, attempt, passes, few⟩

def StartPoint.isOnCourse : StartPoint → Bool
  | .healthy _ | .reconciling _ | .verified _ => true
  | .resolved (.ok _) | .published (.ok _) => true
  | _ => false

structure Taken.Clear (t : Taken) (op : Nat) : Prop where
  uncancelled : ∀ {live : Live}, t.label = .start op .noticeCancel →
    t.before.starts[op]? ≠ some (.healthy live) ∧ t.before.starts[op]? ≠ some (.reconciling live)
  unhindered : ∀ {live : Live}, t.label = .start op .act →
    t.before.starts[op]? = some (.verified live) →
      t.before.lifecycle.shuttingDown = false ∧ t.before.report? live.worker = none

theorem Coherent.stays_on_course (h : Coherent s) (taken : s.step o l = some (s', more))
    (clear : Taken.Clear ⟨s, l, s', more⟩ op) (here : s.starts[op]? = some p)
    (course : p.isOnCourse = true) : ∃ q, s'.starts[op]? = some q ∧ q.isOnCourse = true := by
  obtain ⟨q, there, rfl | ⟨a, rfl, move, _⟩⟩ := (State.step_starts taken).onward here
  · exact ⟨q, there, course⟩
  · refine ⟨q, there, ?_⟩
    -- The moves that leave the course are a cancellation and the two objections to calling the worker
    -- ready; that the worker is another's cannot be, since the open operation's own one is held.
    cases move with
    | watch move =>
      obtain rfl := State.setStart_point here there
      cases move with
      | reconcile | skip | reconciled => rfl
      | noticeCancel waiting =>
        rcases waiting with ⟨_, rfl⟩ | ⟨_, rfl⟩ | rfl | ⟨rfl, _⟩
        · cases course
        · cases course
        · exact absurd here (clear.uncancelled rfl).2
        · exact absurd here (clear.uncancelled rfl).1
      | refuse closed =>
        have admitting := (clear.unhindered rfl here).1
        simp [closed] at admitting
      | bury _ held _ ended =>
        have own := (h.start_fits here).1
        cases own.symm.trans held
        have unreported := (clear.unhindered rfl here).2
        simp [ended] at unreported
      | lose _ elsewhere => exact absurd rfl (elsewhere _ (h.start_fits here).1)
      | noticeEnd probing => rcases probing with rfl | rfl | rfl <;> cases course
      | _ => cases course
    | promote =>
      obtain rfl := State.setStart_point (s := s) here there
      rfl
    | @publish r =>
      obtain rfl := State.setStart_point (s := s) here there
      cases r with
      | ok => rfl
      | error => cases course
    | _ => cases course

theorem Trail.on_course (trail : Trail o steps s) (clear : ∀ t ∈ steps, t.Clear op)
    {t : Taken} (member : t ∈ steps) {attempt : Nat} (passes : t.Passes op live attempt) :
    ∃ q, s.starts[op]? = some q ∧ q.isOnCourse = true := by
  induction trail with
  | new => cases member
  | step trail taken ih =>
    rcases List.mem_append.mp member with earlier | last
    · obtain ⟨p, here, course⟩ := ih (fun u among => clear u (List.mem_append_left _ among)) earlier
      exact trail.reachable.coherent.stays_on_course taken (clear _ List.mem_concat_self) here course
    · rw [List.mem_singleton.mp last] at passes
      exact ⟨_, passes.after, rfl⟩

def Label.obliged : Label → Label
  | .start op (.reconcileReturned _) => .start op (.reconcileReturned (.ok .null))
  | l => l

theorem State.step_obliged : s.step o l.obliged = s.step o l := by
  unfold Label.obliged
  split
  · simp only [step]
    congr 1
    funext p
    cases p <;> rfl
  · rfl

theorem State.run_obliged {labels : List Label} :
    s.run o (labels.map Label.obliged) = s.run o labels := by
  induction labels generalizing s with
  | nil => rfl
  | cons l rest ih => simp only [List.map_cons, run, step_obliged, ih]

/-- By its own steps, and with this answer of its worker where it waits for one, an operation can come
to tell of its success. -/
def State.CanSucceed (s : State) (o : Options) (op : Nat) (r : Except Bridge.Error Json) : Prop :=
  ∃ labels s' more, (∀ l ∈ labels, l = .start op .act ∨ l = .start op (.reconcileReturned r)) ∧
    s.run o labels = some (s', more) ∧ s'.startOutcome? op = some (.ok ())

namespace State

variable {r : Except Bridge.Error Json}

theorem CanSucceed.of_step (own : l = .start op .act ∨ l = .start op (.reconcileReturned r))
    (taken : s.step o l = some (s', more)) (can : s'.CanSucceed o op r) : s.CanSucceed o op r := by
  obtain ⟨labels, u, others, only, goes, told⟩ := can
  refine ⟨l :: labels, u, more ++ others, ?_, run_cons_iff.mpr ⟨_, _, _, taken, goes, rfl⟩, told⟩
  intro l' member
  rcases List.mem_cons.mp member with rfl | member
  · exact own
  · exact only l' member

theorem setStart_self (here : s.starts[op]? = some p) : (s.setStart op q).starts[op]? = some q :=
  List.getElem?_set_self (List.getElem?_eq_some_iff.mp here).1

theorem CanSucceed.of_resolved (here : s.starts[op]? = some (.resolved (.ok ()))) :
    s.CanSucceed o op r := by
  have taken : s.step o (.start op .act) = some (s.setStart op (.published (.ok ())), []) := by
    simp [step, here, stepStart, quietly]
  have told := startOutcome?_eq_some_iff.mpr (.inl (setStart_self (q := .published (.ok ())) here))
  exact ⟨[.start op .act], _, _, by simp, run_single taken, told⟩

theorem CanSucceed.of_verified (here : s.starts[op]? = some (.verified live))
    (held : s.lifecycle.live = some live) (admitting : s.lifecycle.shuttingDown = false)
    (unreported : s.report? live.worker = none) : s.CanSucceed o op r := by
  have promoted : s.promote op live = s.readied.setStart op (.resolved (.ok ())) := by
    simp [promote, admitting, held, unreported, readied]
  have taken : s.step o (.start op .act) = some (s.promote op live, []) := by
    simp [step, here, stepStart, quietly]
  rw [promoted] at taken
  exact .of_step (.inl rfl) taken (.of_resolved (setStart_self (s := s.readied) here))

theorem CanSucceed.of_reconciling (here : s.starts[op]? = some (.reconciling live))
    (held : s.lifecycle.live = some live) (admitting : s.lifecycle.shuttingDown = false)
    (unreported : s.report? live.worker = none) : s.CanSucceed o op r := by
  have taken : s.step o (.start op (.reconcileReturned r)) =
      some (s.setStart op (.verified live), []) := by
    simp [step, here, stepStart, quietly]
  exact .of_step (.inr rfl) taken (.of_verified (setStart_self here) held admitting unreported)

theorem CanSucceed.of_healthy (here : s.starts[op]? = some (.healthy live))
    (held : s.lifecycle.live = some live) (admitting : s.lifecycle.shuttingDown = false)
    (unreported : s.report? live.worker = none) : s.CanSucceed o op r := by
  by_cases wanted : o.reconcile = true
  · have taken : s.step o (.start op .act) =
        some (s.setStart op (.reconciling live), [.reconcile op]) := by
      simp [step, here, stepStart, wanted]
    exact .of_step (.inl rfl) taken (.of_reconciling (setStart_self here) held admitting unreported)
  · have taken : s.step o (.start op .act) = some (s.setStart op (.verified live), []) := by
      simp [step, here, stepStart, wanted, quietly]
    exact .of_step (.inl rfl) taken (.of_verified (setStart_self here) held admitting unreported)

end State

theorem Coherent.can_succeed (h : Coherent s) (here : s.starts[op]? = some p)
    (course : p.isOnCourse = true)
    (unhindered : ∀ {live : Live}, p.watched? = some live →
      s.lifecycle.shuttingDown = false ∧ s.report? live.worker = none)
    (r : Except Bridge.Error Json) : s.CanSucceed o op r := by
  have fits := h.start_fits here
  cases p with
  | healthy => exact .of_healthy here fits.1 (unhindered rfl).1 (unhindered rfl).2
  | reconciling => exact .of_reconciling here fits.1 (unhindered rfl).1 (unhindered rfl).2
  | verified => exact .of_verified here fits.1 (unhindered rfl).1 (unhindered rfl).2
  | resolved outcome =>
    cases outcome with
    | ok => exact .of_resolved here
    | error => cases course
  | published outcome =>
    cases outcome with
    | ok => exact ⟨[], s, [], by simp, rfl, State.startOutcome?_eq_some_iff.mpr (.inl here)⟩
    | error => cases course
  | _ => cases course

variable {e : StartupError} {t : Taken}

structure Taken.Abandons (t : Taken) (op : Nat) (e : StartupError) : Prop where
  label : t.label = .start op .act
  released : t.before.starts[op]? = some (.released e)
  starting : t.before.lifecycle.phase = .starting
  told : t.before.lifecycle.startOp = some op
  resolved : t.after.starts[op]? = some (.resolved (.error e))
  idle : t.after.lifecycle.phase = .idle
  gone : t.after.lifecycle.live = none
  untold : t.after.lifecycle.startOp = none

theorem Coherent.step_fails (h : Coherent s) (taken : s.step o l = some (s', more))
    (there : s'.starts[op]? = some q) (failed : q.failure? = some e) :
    (∃ p, s.starts[op]? = some p ∧ p.failure? = some e) ∨
      Taken.Abandons ⟨s, l, s', more⟩ op e := by
  rcases (State.step_starts taken).origin there with
    old | ⟨p, here, a, rfl, move, leads⟩ | ⟨_, rfl, _⟩
  · exact .inl ⟨q, old, failed⟩
  · cases leads with
    | watch watched still => cases q <;> simp_all [StartPoint.watched?, StartPoint.failure?]
    | @publish r =>
      cases r with
      | ok => cases failed
      | error => exact .inl ⟨_, here, failed⟩
    | abandon =>
      cases failed
      cases move with
      | abandon =>
        exact .inr ⟨rfl, here, h.phase_of_start here rfl, h.start_told.of_open here rfl, there, rfl,
          (h.start_fits here).1, rfl⟩
      | watch move =>
        obtain ⟨_, watched, _⟩ := move.watched
        cases watched
    | _ => cases failed
  · cases failed

theorem Trail.abandoned (trail : Trail o steps s) (here : s.starts[op]? = some p)
    (failed : p.failure? = some e) : ∃ t ∈ steps, t.Abandons op e := by
  induction trail generalizing p with
  | new => simp at here
  | step trail taken ih =>
    rcases trail.reachable.coherent.step_fails taken here failed with ⟨q, before, so⟩ | abandons
    · obtain ⟨t, member, abandons⟩ := ih before so
      exact ⟨t, List.mem_append_left _ member, abandons⟩
    · exact ⟨_, List.mem_concat_self, abandons⟩

theorem History.released_done (history : History o asked s)
    (here : s.starts[op]? = some (.released e)) (inside : w < s.workers.length) :
    s.DoneWith asked w := by
  have h := (Reachable.iff_history.mpr ⟨asked, history⟩).coherent
  rcases history.accounted.placed inside with ended | ⟨once, held⟩ | waited
  · exact .inl ended
  · rw [State.holds_without (h.start_fits here).1 (h.holds_at_start here rfl)] at held
    cases held
  · exact .inr waited

theorem State.step_launched {pid : Option Nat}
    (taken : s.step o (.start op (.launchReturned (.ok pid))) = some (s', more)) :
    s.starts[op]? = some .launching ∧ s'.workers.length = s.workers.length + 1 := by
  cases State.step_move taken with
  | start here move =>
    cases move with
    | spawn => exact ⟨here, by simp [spawned, setStart]⟩
    | watch move => cases move

theorem Trail.launched_within (trail : Trail o steps s) {pid : Option Nat} :
    ∀ u ∈ steps, u.label = .start op (.launchReturned (.ok pid)) →
      u.before.workers.length < s.workers.length := by
  induction trail with
  | new => simp
  | step trail taken ih =>
    intro u member label
    rcases List.mem_append.mp member with earlier | last
    · exact Nat.lt_of_lt_of_le (ih u earlier label) (State.step_workers taken).length_le
    · cases List.mem_singleton.mp last
      cases label
      exact Nat.lt_of_lt_of_eq (Nat.lt_succ_self _) (State.step_launched taken).2.symm

theorem Trail.still_closed (trail : Trail o steps s) : ∀ t ∈ steps, ∀ p : StartPoint,
    t.after.starts[op]? = some p → p.isOpen = false →
      ∃ q, s.starts[op]? = some q ∧ q.isOpen = false := by
  induction trail with
  | new => simp
  | step trail taken ih =>
    intro t member p after closed
    rcases List.mem_append.mp member with earlier | last
    · obtain ⟨q, here, final⟩ := ih t earlier p after closed
      obtain ⟨r, there, rfl | ⟨_, _, _, leads⟩⟩ := (State.step_starts taken).onward here
      · exact ⟨_, there, final⟩
      · refine ⟨r, there, Bool.eq_false_iff.mpr fun opened => ?_⟩
        simp [leads.isOpen opened] at final
    · cases List.mem_singleton.mp last
      exact ⟨p, after, closed⟩

theorem Trail.launched_before {earlier later : List Taken}
    (trail : Trail o (earlier ++ t :: later) s) (abandons : t.Abandons op e) {pid : Option Nat}
    {u : Taken} (member : u ∈ earlier ++ t :: later)
    (label : u.label = .start op (.launchReturned (.ok pid))) :
    u.before.workers.length < t.before.workers.length := by
  rcases List.mem_append.mp member with before | same | after
  · exact trail.split.1.launched_within u before label
  · cases abandons.label.symm.trans label
  · rename_i after
    obtain ⟨between, beyond, rfl⟩ := List.mem_iff_append.mp after
    rw [← List.cons_append, ← List.append_assoc] at trail
    obtain ⟨shorter, taken⟩ := trail.split
    obtain ⟨q, here, closed⟩ := shorter.still_closed t (by simp) _ abandons.resolved rfl
    rw [label] at taken
    cases here.symm.trans (State.step_launched taken).1
    cases closed

/-- How a failed operation was given up, before it was told. -/
structure GivenUp (o : Options) (op : Nat) (e : StartupError) (before : Entries) (t : Taken)
    (steps : List Taken) : Prop where
  abandons : t.Abandons op e
  unseen : t.after.startOutcome? op = none
  done : ∀ w < t.before.workers.length, t.before.hasEnded w = true ∨ Outwaited o before.log w
  launched : ∀ u ∈ steps, ∀ pid, u.label = .start op (.launchReturned (.ok pid)) →
    u.before.workers.length < t.before.workers.length

variable {now : Nat} {entries : Entries}

theorem Chronicle.given_up (chronicle : Chronicle o now entries s)
    (here : s.starts[op]? = some p) (failed : p.failure? = some e) :
    ∃ before since t after, entries = before ++ (since, t) :: after ∧
      GivenUp o op e before t entries.steps := by
  obtain ⟨t, member, abandons⟩ := chronicle.trail.abandoned here failed
  obtain ⟨⟨since, _⟩, among, rfl⟩ := List.mem_map.mp member
  obtain ⟨before, after, rfl⟩ := List.mem_iff_append.mp among
  obtain ⟨_, earlier⟩ := chronicle.split
  have trail := chronicle.trail
  refine ⟨before, since, _, after, rfl, abandons, ?_, ?_, ?_⟩
  · simp [State.startOutcome?, abandons.resolved]
  · intro w inside
    exact earlier.done_with (earlier.trail.history.released_done abandons.released inside)
  · intro u member pid label
    simp only [Entries.steps_append] at trail member
    exact trail.launched_before abandons member label

theorem Coherent.joins_open (h : Coherent s) {i other : Nat} {c c' : Caller}
    (move : CallerMove o s i c .act s' c' more) (ensuring : c.point = .ensuring)
    (joins : c'.point = .awaitingStart other) :
    ∃ q, s'.starts[other]? = some q ∧ q.isOpen = true := by
  cases move with
  | join at_ admitting starting told =>
    cases joins
    exact (h.start_told other).mp told
  | create =>
    cases joins
    exact ⟨.created, List.getElem?_concat_length, rfl⟩
  | stopped at_ => rcases at_ with at_ | at_ <;> cases ensuring.symm.trans at_
  | _ => simp_all

theorem Reachable.joins_another (reachable : Reachable o s) (here : s.starts[op]? = some p)
    (closed : p.isOpen = false) {i : Nat} {c c' : Caller}
    (taken : s.step o (.caller i .act) = some (s', more)) (asks : s.callers[i]? = some c)
    (ensuring : c.point = .ensuring) (there : s'.callers[i]? = some c') :
    c'.point ≠ .awaitingStart op := by
  intro joins
  obtain ⟨_, _, s₁, own, after, rfl, move, _⟩ := State.step_own taken
  cases asks.symm.trans own
  cases there.symm.trans after
  obtain ⟨q, joined, opened⟩ := reachable.coherent.joins_open move ensuring joins
  obtain ⟨r, still, rfl | ⟨_, acts, _⟩⟩ := (State.step_starts taken).onward here
  · cases joined.symm.trans still
    simp [closed] at opened
  · cases acts

theorem StartMove.of_died {a : StartAct} (move : StartMove o s op p a s' more)
    (here : s.starts[op]? = some p) (there : s'.starts[op]? = some .died) : a = .breakDown := by
  cases move with
  | breakDown => rfl
  | register w => cases State.register_point here there
  | watch move =>
    obtain rfl := State.setStart_point here there
    cases move
  | _ => cases State.setStart_point (s := s) here there

theorem Trail.broken_down (trail : Trail o steps s) (here : s.starts[op]? = some .died) :
    ∃ t ∈ steps, t.label = .start op .breakDown := by
  induction trail with
  | new => simp at here
  | step trail taken ih =>
    rcases (State.step_starts taken).origin here with old | ⟨p, before, a, rfl, move, _⟩ | ⟨_, made, _⟩
    · obtain ⟨t, member, label⟩ := ih old
      exact ⟨t, List.mem_append_left _ member, label⟩
    · obtain rfl := move.of_died before here
      exact ⟨_, List.mem_concat_self, rfl⟩
    · cases made

/-- What can be relied on of a start operation, after a run with all its steps. -/
structure StartSettled (o : Options) (entries : Entries) (s : State) (op : Nat) : Prop where
  earned : ∀ {p : StartPoint}, s.starts[op]? = some p → p.succeeds = true →
    ∃ live ts t, Earned o op entries.steps live ts t
  attempts : checks (entries.steps.flatMap Taken.asked) op ≤ o.attempts
  deserved : (∀ t ∈ entries.steps, t.Clear op) → ∀ t ∈ entries.steps, ∀ {live : Live} {attempt : Nat},
    t.Passes op live attempt → (∃ p, s.starts[op]? = some p ∧ p.isOnCourse = true) ∧
      ∀ r, s.startOutcome? op = some r → r = .ok ()
  proceeds : ∀ {p : StartPoint}, s.starts[op]? = some p → p.isOnCourse = true →
    (∀ {live : Live}, p.watched? = some live →
      s.lifecycle.shuttingDown = false ∧ s.report? live.worker = none) → ∀ r, s.CanSucceed o op r
  /-- What the worker makes of the boundary changes nothing, for this operation or any other. -/
  obliged : ∀ labels, s.run o (labels.map Label.obliged) = s.run o labels
  cancelled : ∀ {p : StartPoint}, s.starts[op]? = some p → p.error? = some .cancelled →
    s.lifecycle.shuttingDown = true
  told : ∀ {r : Except StartupError Unit}, s.startOutcome? op = some r →
    s.starts[op]? = some (.published r) ∨
      (r = .error .aborted ∧ ∃ t ∈ entries.steps, t.label = .start op .breakDown)
  given_up : ∀ {e : StartupError}, s.starts[op]? = some (.published (.error e)) →
    ∃ before since t after, entries = before ++ (since, t) :: after ∧
      GivenUp o op e before t entries.steps
  patient : ∀ {e : StartupError} {live : Live}, s.starts[op]? = some (.terminating e live) →
    ∃ since, Patient o entries.log s op e live since
  /-- The same steps can be taken on time, with no wait longer than the stop timeout. -/
  on_time : ∃ now timely, Chronicle o now timely s ∧ Entries.steps timely = entries.steps ∧
    timely.OnTime o
  another : ∀ {e : StartupError}, s.starts[op]? = some (.published (.error e)) →
    ∀ {i : Nat} {c c' : Caller} {s' : State} {more : List Event},
      s.step o (.caller i .act) = some (s', more) → s.callers[i]? = some c → c.point = .ensuring →
        s'.callers[i]? = some c' → c'.point ≠ .awaitingStart op

theorem start_settled (chronicle : Chronicle o now entries s) (op : Nat) :
    StartSettled o entries s op := by
  have trail := chronicle.trail
  have reachable := trail.reachable
  exact {
    earned := trail.earned
    attempts := trail.history.checks_le op
    deserved := by
      intro clear t member live attempt passes
      obtain ⟨p, here, course⟩ := trail.on_course clear member passes
      refine ⟨⟨p, here, course⟩, fun r told => ?_⟩
      rcases State.startOutcome?_eq_some_iff.mp told with published | ⟨died, _⟩
      · cases here.symm.trans published
        cases r with
        | ok => rfl
        | error => cases course
      · cases here.symm.trans died
        cases course
    proceeds := reachable.coherent.can_succeed
    obliged := fun _ => State.run_obliged
    cancelled := reachable.cancels
    told := by
      intro r told
      rcases State.startOutcome?_eq_some_iff.mp told with published | ⟨died, rfl⟩
      · exact .inl published
      · exact .inr ⟨rfl, trail.broken_down died⟩
    given_up := fun here => chronicle.given_up here rfl
    patient := chronicle.timed.patient
    on_time := by
      obtain ⟨now, timely, again, same, onTime, _⟩ := trail.on_time
      exact ⟨now, timely, again, same, onTime⟩
    another := fun here => reachable.joins_another here rfl }

/-- The only check fails, and the worker does not heed being asked to end. -/
theorem start_settled_after_timeout : ∃ now entries s, Chronicle .plain now entries s ∧
    s.starts[0]? = some (.published (.error (.timeout 1))) ∧ s.workers.length = 1 ∧
    s.hasEnded 0 = false ∧ s.lifecycle.phase = .idle ∧ StartSettled .plain entries s 0 := by
  let labels : List Label := [.enter .start, .caller 0 .act, .start 0 .act,
    .start 0 (.launchReturned (.ok (some 1001))), .start 0 .act, .start 0 .act,
    .start 0 (.checkReturned false), .start 0 .act, .start 0 .act, .start 0 .timeUp,
    .start 0 .act, .start 0 .act]
  have went : ({} : State).run .plain labels = some _ := rfl
  obtain ⟨now, entries, chronicle⟩ := Chronicle.new.run went
  exact ⟨now, _, _, chronicle, rfl, rfl, rfl, rfl, start_settled chronicle 0⟩

end MissionWorker.Supervisor
