import MissionWorker.Proofs.Supervisor.Coherence

namespace MissionWorker.Supervisor

variable {o : Options} {s s' : State} {l : Label} {asked more : List Event} {op : Nat}

def Event.isLaunch (op : Nat) : Event → Bool
  | .launch launched => launched == op
  | _ => false

def launches (asked : List Event) (op : Nat) : Nat := asked.countP (Event.isLaunch op)

theorem launches_append (asked more : List Event) (op : Nat) :
    launches (asked ++ more) op = launches asked op + launches more op := List.countP_append

def State.hasLaunched (s : State) (op : Nat) : Bool :=
  match s.starts[op]? with
  | none | some .created => false
  | some _ => true

namespace State

theorem hasLaunched_of_created (here : s.starts[op]? = some .created) : s.hasLaunched op = false := by
  simp [hasLaunched, here]

theorem hasLaunched_of_ne {p : StartPoint} (here : s.starts[op]? = some p) (past : p ≠ .created) :
    s.hasLaunched op = true := by
  cases p <;> simp_all [hasLaunched]

theorem hasLaunched_congr (same : s'.starts[op]? = s.starts[op]?) :
    s'.hasLaunched op = s.hasLaunched op := by
  simp only [hasLaunched, same]

end State

theorem StartPoint.Leads.ne_created {p p' : StartPoint} (leads : p.Leads p') : p' ≠ .created := by
  cases leads with
  | watch watched still =>
    rintro rfl
    simp [watched?] at still
  | _ =>
    intro same
    cases same

theorem StartMove.launches {p : StartPoint} {a : StartAct} (move : StartMove o s op p a s' more) :
    (p = .created ∧ more = [.launch op]) ∨
      (p ≠ .created ∧ ∀ other, MissionWorker.Supervisor.launches more other = 0) := by
  cases move with
  | call => exact .inl ⟨rfl, rfl⟩
  | watch move =>
    obtain ⟨live, watched, _⟩ := move.watched
    refine .inr ⟨?_, fun other => ?_⟩
    · rintro rfl
      simp [StartPoint.watched?] at watched
    · cases move <;> rfl
  | _ =>
    refine .inr ⟨?_, fun _ => rfl⟩
    intro same
    cases same

theorem State.launches_of_other (taken : s.step o l = some (s', more))
    (other : ∀ op a, l ≠ .start op a) : launches more op = 0 := by
  cases State.step_move taken with
  | enter => rfl
  | @start first p a => exact absurd rfl (other first a)
  | stop here move => cases move <;> rfl
  | monitor => rfl
  | caller here move => cases move <;> rfl
  | worker here held move => cases move <;> rfl

theorem State.step_launches (taken : s.step o l = some (s', more)) (op : Nat) :
    launches more op + (s.hasLaunched op).toNat = (s'.hasLaunched op).toNat := by
  by_cases starts : ∃ first a, l = .start first a
  · obtain ⟨first, a, rfl⟩ := starts
    cases State.step_move taken with
    | @start _ p _ _ _ here move =>
      obtain ⟨p', after, leads⟩ := move.leads
      by_cases same : op = first
      · subst same
        have now : s'.hasLaunched op = true := by
          refine hasLaunched_of_ne (p := p') ?_ leads.ne_created
          rw [after, List.getElem?_set_self (List.getElem?_eq_some_iff.mp here).1]
        rcases move.launches with ⟨rfl, rfl⟩ | ⟨past, silent⟩
        · rw [hasLaunched_of_created here, now]
          simp [launches, Event.isLaunch]
        · rw [hasLaunched_of_ne here past, now, silent, Nat.zero_add]
      · have unmoved : s'.hasLaunched op = s.hasLaunched op :=
          hasLaunched_congr (by rw [after, List.getElem?_set_ne (Ne.symm same)])
        rcases move.launches with ⟨_, rfl⟩ | ⟨_, silent⟩
        · simp [launches, Event.isLaunch, Ne.symm same, unmoved]
        · simp [silent, unmoved]
  · have silent : launches more op = 0 :=
      launches_of_other taken fun first a at_ => starts ⟨first, a, at_⟩
    have unmoved : s'.hasLaunched op = s.hasLaunched op := by
      cases before : s.starts[op]? with
      | some p =>
        obtain ⟨q, after, rfl | ⟨a, at_, _⟩⟩ := (State.step_starts taken).onward before
        · exact hasLaunched_congr (by rw [before, after])
        · exact absurd ⟨op, a, at_⟩ starts
      | none =>
        cases after : s'.starts[op]? with
        | none => exact hasLaunched_congr (by rw [before, after])
        | some q =>
          rcases (State.step_starts taken).origin after with old | ⟨_, old, _⟩ | ⟨_, rfl, _⟩
          · simp [before] at old
          · simp [before] at old
          · simp [hasLaunched, before, after]
    rw [silent, unmoved, Nat.zero_add]

theorem History.launched_once (history : History o asked s) (op : Nat) :
    launches asked op = (s.hasLaunched op).toNat := by
  induction history using History.induction with
  | new => rfl
  | kept history once taken =>
    have now := State.step_launches taken op
    rw [launches_append]
    omega

theorem State.step_launch (taken : s.step o l = some (s', more)) (launch : .launch op ∈ more) :
    l = .start op .act ∧ s.starts[op]? = some .created := by
  have counted : 0 < launches more op :=
    List.countP_pos_iff.mpr ⟨_, launch, by simp [Event.isLaunch]⟩
  by_cases starts : ∃ first a, l = .start first a
  · obtain ⟨first, a, rfl⟩ := starts
    cases State.step_move taken with
    | start here move =>
      rcases move.launches with ⟨rfl, rfl⟩ | ⟨_, silent⟩
      · cases List.mem_singleton.mp launch
        cases move with
        | call => exact ⟨rfl, here⟩
        | watch move => cases move
      · have unheard := silent op
        omega
  · have silent : launches more op = 0 :=
      launches_of_other taken fun first a at_ => starts ⟨first, a, at_⟩
    omega

theorem Coherent.launch_alone (h : Coherent s) (taken : s.step o l = some (s', more))
    (launch : .launch op ∈ more) :
    s.lifecycle.phase = .starting ∧ s.lifecycle.startOp = some op ∧
      (∀ (other : Nat) p, other ≠ op → s.starts[other]? = some p → p.isOpen = false) ∧
      (∀ (other : Nat) p, s.stops[other]? = some p → p.isOpen = false) := by
  obtain ⟨_, here⟩ := State.step_launch taken launch
  have phase := h.phase_of_start here rfl
  have told := h.start_told.of_open here rfl
  refine ⟨phase, told, ?_, ?_⟩
  · intro other p different there
    refine Bool.eq_false_iff.mpr fun opened => different ?_
    exact Option.some.inj ((h.start_told.of_open there opened).symm.trans told)
  · intro other p there
    have stops := h.stop_told
    rw [h.no_stop (by simp [phase])] at stops
    exact stops.closed there

theorem Coherent.step_creates (h : Coherent s) (taken : s.step o l = some (s', more)) :
    (s'.starts.length = s.starts.length ∧
        (s'.lifecycle.phase = .starting → s.lifecycle.phase = .starting)) ∨
      ∃ i c s₁ c', l = .caller i .act ∧ s.callers[i]? = some c ∧ s' = s₁.setCaller i c' ∧
        s.Creates i c .act s₁ c' := by
  have begins (same : s'.starts.length = s.starts.length) (starting : s'.lifecycle.phase = .starting) :
      s.lifecycle.phase = .starting := by
    have h' := h.step taken
    obtain ⟨op, told⟩ := Option.isSome_iff_exists.mp (h'.starting.mpr starting)
    obtain ⟨p, there, opened⟩ := (h'.start_told op).mp told
    rcases (State.step_starts taken).origin there with
      old | ⟨q, here, _, _, _, leads⟩ | ⟨fresh, rfl, _⟩
    · exact h.phase_of_start old opened
    · exact h.phase_of_start here (leads.isOpen opened)
    · have bound := (List.getElem?_eq_some_iff.mp there).1
      omega
  generalize hall : s'.starts = all
  have evolves := State.step_starts taken
  rw [hall] at evolves
  cases evolves with
  | same =>
    have same : s'.starts.length = s.starts.length := by rw [hall]
    exact .inl ⟨rfl, begins same⟩
  | set here move =>
    have same : s'.starts.length = s.starts.length := by rw [hall, List.length_set]
    exact .inl ⟨List.length_set .., begins same⟩
  | concat enter =>
    obtain ⟨_, i, c, a, s₁, c', rfl, here, rfl, creates⟩ := enter
    obtain rfl := creates.act
    exact .inr ⟨i, c, s₁, c', rfl, here, rfl, creates⟩

def StartPoint.isUnnumbered : StartPoint → Bool
  | .created | .launching | .launched _ => true
  | _ => false

theorem StartPoint.isUnnumbered_of_watched {p : StartPoint} {live : Live}
    (watched : p.watched? = some live) : p.isUnnumbered = false := by
  cases p <;> simp_all [watched?, isUnnumbered]

theorem StartPoint.Leads.isUnnumbered {p p' : StartPoint} (leads : p.Leads p')
    (past : p.isUnnumbered = false) : p'.isUnnumbered = false := by
  cases leads with
  | watch watched still => exact isUnnumbered_of_watched still
  | call | spawn => cases past
  | _ => rfl

/-- A generation that was given to an operation for its worker, at any time after that. -/
structure State.Given (s : State) (op : Nat) (live : Live) : Prop where
  past : ∃ p, s.starts[op]? = some p ∧ p.isUnnumbered = false
  counted : live.generation < s.lifecycle.nextGeneration
  only : ∀ {other : Nat} {p : StartPoint} {held : Live}, s.starts[other]? = some p →
    p.watched? = some held → held.generation = live.generation → other = op ∧ held = live

namespace Coherent

theorem held_of_watched (h : Coherent s) {p : StartPoint} {live : Live}
    (here : s.starts[op]? = some p) (watched : p.watched? = some live) :
    s.lifecycle.live = some live ∧ s.workers.length + 1 = s.lifecycle.nextGeneration :=
  (StartPoint.fits_of_watched watched).mp (h.start_fits here)

theorem given (h : Coherent s) {p : StartPoint} {live : Live} (here : s.starts[op]? = some p)
    (watched : p.watched? = some live) : s.Given op live where
  past := ⟨p, here, StartPoint.isUnnumbered_of_watched watched⟩
  counted := by
    obtain ⟨held, counted⟩ := h.held_of_watched here watched
    have latest := (h.latest held).generation
    omega
  only := by
    intro other q held there watches _
    have told := h.start_told.of_open here (StartPoint.isOpen_of_watched watched)
    have also := h.start_told.of_open there (StartPoint.isOpen_of_watched watches)
    have one := (h.held_of_watched here watched).1
    have two := (h.held_of_watched there watches).1
    exact ⟨Option.some.inj (also.symm.trans told), Option.some.inj (two.symm.trans one)⟩

theorem step_given (h : Coherent s) (taken : s.step o l = some (s', more)) {live : Live}
    (given : s.Given op live) : s'.Given op live where
  past := by
    obtain ⟨p, here, past⟩ := given.past
    obtain ⟨q, there, rfl | ⟨_, _, _, leads⟩⟩ := (State.step_starts taken).onward here
    · exact ⟨q, there, past⟩
    · exact ⟨q, there, leads.isUnnumbered past⟩
  counted := Nat.lt_of_lt_of_le given.counted (State.step_nextGeneration taken)
  only := by
    intro other q held there watches same
    rcases (State.step_starts taken).origin there with old | ⟨p, here, _, _, _, leads⟩ | ⟨_, rfl, _⟩
    · exact given.only old watches same
    · cases leads with
      | watch watched still =>
        cases watches.symm.trans still
        exact given.only here watched same
      | register =>
        -- The worker is the last one, and there were as many before as generations were given out.
        obtain ⟨_, counted, _⟩ := h.start_fits here
        have latest := ((h.step taken).latest ((h.step taken).held_of_watched there watches).1).generation
        have grown := (State.step_workers taken).length_le
        have before := given.counted
        omega
      | _ => cases watches
    · cases watches

end Coherent

theorem Reachable.given (reachable : Reachable o s) {labels : List Label} {live : Live}
    (given : s.Given op live) (goes : s.run o labels = some (s', more)) : s'.Given op live :=
  reachable.stays (fun reachable given taken => reachable.coherent.step_given taken given) given goes

/-- What has become of a caller that waits for a start operation, or has waited for it. -/
def State.Heard (s : State) (i : Nat) (c : Caller) (op : Nat) : Prop :=
  ∃ c', s.callers[i]? = some c' ∧ (c' = c ∨ c'.point = .dropped ∨
    s.startOutcome? op = some (.ok ()) ∨
    ∃ e, s.startOutcome? op = some (.error e) ∧ c'.point = .returned (.error (.startup e)))

theorem State.step_heard {i : Nat} {c : Caller} (waits : c.point = .awaitingStart op)
    (taken : s.step o l = some (s', more)) (heard : s.Heard i c op) : s'.Heard i c op := by
  obtain ⟨c', here, became⟩ := heard
  obtain ⟨c'', there, rfl | ⟨a, s₁, rfl, rfl, move⟩⟩ := (State.step_callers taken).onward here
  · refine ⟨c'', there, ?_⟩
    rcases became with same | dropped | started | ⟨e, failed, returned⟩
    · exact .inl same
    · exact .inr (.inl dropped)
    · exact .inr (.inr (.inl (State.step_startOutcome? taken started)))
    · exact .inr (.inr (.inr ⟨e, State.step_startOutcome? taken failed, returned⟩))
  · refine ⟨c'', there, ?_⟩
    have finished := move.unfinished
    rcases became with rfl | dropped | started | ⟨e, _, returned⟩
    · cases move with
      | drop => exact .inr (.inl rfl)
      | started here told =>
        cases waits.symm.trans here
        exact .inr (.inr (.inl told))
      | startFailed here told =>
        cases waits.symm.trans here
        exact .inr (.inr (.inr ⟨_, told, rfl⟩))
      | _ => simp_all
    · exact absurd dropped finished.1
    · exact .inr (.inr (.inl (State.step_startOutcome? taken started)))
    · exact absurd returned (finished.2 _)

def StartPoint.failure? : StartPoint → Option StartupError
  | .resolved (.error e) | .published (.error e) => some e
  | _ => none

theorem State.startOutcome?_of_failure {p : StartPoint} {e : StartupError}
    (here : s.starts[op]? = some p) (failed : p.failure? = some e) {r : Except StartupError Unit}
    (told : s.startOutcome? op = some r) : r = .error e := by
  rcases startOutcome?_eq_some_iff.mp told with published | ⟨died, _⟩
  · cases here.symm.trans published
    cases r with
    | ok => cases failed
    | error => simpa [StartPoint.failure?] using failed
  · cases here.symm.trans died
    cases failed

theorem State.Heard.of_failure {i : Nat} {c : Caller} {p : StartPoint} {e : StartupError}
    (heard : s.Heard i c op) (here : s.starts[op]? = some p) (failed : p.failure? = some e) :
    ∃ c', s.callers[i]? = some c' ∧
      (c' = c ∨ c'.point = .dropped ∨ c'.point = .returned (.error (.startup e))) := by
  obtain ⟨c', there, became⟩ := heard
  refine ⟨c', there, ?_⟩
  rcases became with same | dropped | started | ⟨e', told, returned⟩
  · exact .inl same
  · exact .inr (.inl dropped)
  · cases startOutcome?_of_failure here failed started
  · cases startOutcome?_of_failure here failed told
    exact .inr (.inr returned)

theorem State.step_of_failure {i : Nat} {c : Caller} {e : StartupError}
    (here : s.starts[op]? = some (.published (.error e))) (there : s.callers[i]? = some c)
    (waits : c.point = .awaitingStart op) :
    s.step o (.caller i .act) =
      some (s.setCaller i { c with point := .returned (.error (.startup e)) }, []) := by
  have told := startOutcome?_eq_some_iff.mpr (.inl here)
  simp [step, there, stepCaller, waits, told, quietly]

/-- What one start at a time means, in a state with all that was asked until then. -/
structure SingleFlight (o : Options) (asked : List Event) (s : State) : Prop where
  one_open : ∀ {op other : Nat} {p q : StartPoint}, s.starts[op]? = some p → p.isOpen = true →
    s.starts[other]? = some q → q.isOpen = true → other = op
  launched : ∀ op, launches asked op = (s.hasLaunched op).toNat
  resolved : ∀ {op : Nat} {p : StartPoint}, s.starts[op]? = some p → p.isOpen = false →
    launches asked op = 1
  created : ∀ {l : Label} {s' : State} {more : List Event}, s.step o l = some (s', more) →
    (s'.starts.length = s.starts.length ∧
        (s'.lifecycle.phase = .starting → s.lifecycle.phase = .starting)) ∨
      ∃ i c s₁ c', l = .caller i .act ∧ s.callers[i]? = some c ∧ s' = s₁.setCaller i c' ∧
        s.Creates i c .act s₁ c'
  launch_alone : ∀ {l : Label} {s' : State} {more : List Event} {op : Nat},
    s.step o l = some (s', more) → .launch op ∈ more →
    s.lifecycle.phase = .starting ∧ s.lifecycle.startOp = some op ∧
      (∀ (other : Nat) p, other ≠ op → s.starts[other]? = some p → p.isOpen = false) ∧
      (∀ (other : Nat) p, s.stops[other]? = some p → p.isOpen = false)
  generations : ∀ {op : Nat} {p : StartPoint} {live : Live}, s.starts[op]? = some p →
    p.watched? = some live → ∀ {labels : List Label} {s' : State} {more : List Event} {other : Nat}
      {q : StartPoint} {held : Live}, s.run o labels = some (s', more) →
      s'.starts[other]? = some q → q.watched? = some held → held.generation = live.generation →
      other = op ∧ held = live
  failure_shared : ∀ {i op : Nat} {c : Caller}, s.callers[i]? = some c → c.point = .awaitingStart op →
    ∀ {labels : List Label} {s' : State} {more : List Event} {p : StartPoint} {e : StartupError},
      s.run o labels = some (s', more) → s'.starts[op]? = some p → p.failure? = some e →
      ∃ c', s'.callers[i]? = some c' ∧
        (c' = c ∨ c'.point = .dropped ∨ c'.point = .returned (.error (.startup e))) ∧
        (c' = c → p = .published (.error e) → s'.step o (.caller i .act) =
          some (s'.setCaller i { c with point := .returned (.error (.startup e)) }, []))

theorem single_flight (history : History o asked s) : SingleFlight o asked s := by
  have reachable : Reachable o s := Reachable.iff_history.mpr ⟨asked, history⟩
  have h := reachable.coherent
  exact {
    one_open := by
      intro op other p q here opened there also
      have told := h.start_told.of_open here opened
      exact Option.some.inj ((h.start_told.of_open there also).symm.trans told)
    launched := history.launched_once
    resolved := by
      intro op p here closed
      have past : p ≠ .created := by
        rintro rfl
        cases closed
      rw [history.launched_once, State.hasLaunched_of_ne here past]
      rfl
    created := h.step_creates
    launch_alone := h.launch_alone
    generations := by
      intro op p live here watched labels s' more other q held goes there watches same
      exact (reachable.given (h.given here watched) goes).only there watches same
    failure_shared := by
      intro i op c here waits labels s' more p e goes there failed
      have waiting : s.Heard i c op := ⟨c, here, .inl rfl⟩
      have heard : s'.Heard i c op :=
        reachable.stays (fun _ heard taken => State.step_heard waits taken heard) waiting goes
      obtain ⟨c', at_, became⟩ := heard.of_failure there failed
      refine ⟨c', at_, became, ?_⟩
      rintro rfl rfl
      exact State.step_of_failure there at_ waits }

/-- Two callers share a start whose process cannot be launched. -/
theorem single_flight_of_two : ∃ asked s, History .plain asked s ∧ s.callers.length = 2 ∧
    s.startOutcome? 0 = some (.error (.launch (.unresolved ""))) ∧ SingleFlight .plain asked s := by
  let labels : List Label := [.enter .start, .enter .start, .caller 0 .act, .caller 1 .act,
    .start 0 .act, .start 0 (.launchReturned (.error (.unresolved ""))), .start 0 .act,
    .start 0 .act, .start 0 .act]
  refine ⟨_, _, ⟨labels, rfl⟩, rfl, rfl, ?_⟩
  exact single_flight ⟨labels, rfl⟩

end MissionWorker.Supervisor
