import MissionWorker.Proofs.Supervisor.Chronicle

namespace MissionWorker.Supervisor

variable {o : Options} {s s' : State} {l : Label} {asked more : List Event} {op now : Nat}
  {p q : StartPoint} {live : Live} {e : StartupError}

def StartPoint.isBeforeWait : StartPoint → Bool
  | .terminating _ _ | .released _ | .resolved _ | .published _ => false
  | _ => true

theorem StartPoint.Leads.isBeforeWait (leads : p.Leads q) (still : q.isBeforeWait = true) :
    p.isBeforeWait = true := by
  cases leads with
  | watch watched | fail watched => cases p <;> simp_all [watched?, StartPoint.isBeforeWait]
  | terminate | spare | letGo | abandon | publish | miss | promote => cases still
  | _ => rfl

theorem State.step_awaitEnd (taken : s.step o l = some (s', more)) (waits : .awaitEnd op ∈ more) :
    ∃ e live, s.starts[op]? = some (.taken e live) ∧ s'.starts[op]? = some (.terminating e live) := by
  cases State.step_move taken with
  | enter | monitor => cases waits
  | start here move =>
    cases move with
    | watch move => cases move <;> simp at waits
    | terminate =>
      simp only [List.mem_cons, reduceCtorEq, Event.awaitEnd.injEq, List.not_mem_nil, or_false,
        false_or] at waits
      subst waits
      exact ⟨_, _, here, List.getElem?_set_self (List.getElem?_eq_some_iff.mp here).1⟩
    | _ => simp at waits
  | stop here move => cases move <;> simp at waits
  | caller here move => cases move <;> simp at waits
  | worker here held move => cases move <;> simp at waits

theorem Timed.waits_once {log : Log} (timed : Timed o now log s) (op : Nat) :
    (∀ since, (since, .awaitEnd op) ∈ log →
      ∃ p, s.starts[op]? = some p ∧ p.isBeforeWait = false) ∧
    ∀ since other, (since, .awaitEnd op) ∈ log → (other, .awaitEnd op) ∈ log → other = since := by
  induction timed with
  | new => simp
  | @step before now log s s' l asked timed _ _ taken ih =>
    obtain ⟨begun, once⟩ := ih
    have entered {since : Nat} (member : (since, .awaitEnd op) ∈ log ++ asked.map (now, ·)) :
        (since, .awaitEnd op) ∈ log ∨ (since = now ∧ .awaitEnd op ∈ asked) := by
      rcases List.mem_append.mp member with old | new
      · exact .inl old
      · obtain ⟨_, waits, same⟩ := List.mem_map.mp new
        cases same
        exact .inr ⟨rfl, waits⟩
    -- An operation that begins to wait in this step has not waited before.
    have first {since : Nat} (old : (since, .awaitEnd op) ∈ log) : .awaitEnd op ∉ asked := by
      intro waits
      obtain ⟨p, here, begins⟩ := begun since old
      obtain ⟨e, live, taken, _⟩ := State.step_awaitEnd taken waits
      cases here.symm.trans taken
      cases begins
    constructor
    · intro since member
      rcases entered member with old | ⟨_, waits⟩
      · obtain ⟨p, here, begins⟩ := begun since old
        obtain ⟨q, there, rfl | ⟨_, _, _, leads⟩⟩ := (State.step_starts taken).onward here
        · exact ⟨_, there, begins⟩
        · refine ⟨q, there, Bool.eq_false_iff.mpr fun still => ?_⟩
          simp [leads.isBeforeWait still] at begins
      · obtain ⟨e, live, _, there⟩ := State.step_awaitEnd taken waits
        exact ⟨_, there, rfl⟩
    · intro since other member also
      rcases entered member with old | ⟨rfl, waits⟩
      · rcases entered also with older | ⟨_, waits⟩
        · exact once since other old older
        · exact absurd waits (first old)
      · rcases entered also with old | ⟨rfl, _⟩
        · exact absurd waits (first old)
        · rfl

/-- An operation waits for its worker, which it has asked to end, and may go on as soon as the stop
timeout is over. -/
structure Patient (o : Options) (log : Log) (s : State) (op : Nat) (e : StartupError) (live : Live)
    (since : Nat) : Prop where
  requested : (since, .terminate live.worker (.graceful o.stopTimeout)) ∈ log
  waits : ∀ other, (other, .awaitEnd op) ∈ log ↔ other = since
  limited : ∀ now, since + o.stopTimeout ≤ now → Punctual o log now (.start op .timeUp)
  goes : s.step o (.start op .timeUp) =
    some ((s.release live).setStart op (.released e), [.outlasted live.worker])

theorem Timed.patient {log : Log} (timed : Timed o now log s)
    (here : s.starts[op]? = some (.terminating e live)) :
    ∃ since, Patient o log s op e live since := by
  obtain ⟨since, requested, waits⟩ := timed.waiting.start here
  have once := (timed.waits_once op).2
  refine ⟨since, requested, fun other => ⟨fun also => once since other waits also, ?_⟩, ?_, ?_⟩
  · rintro rfl
    exact waits
  · intro now late other also
    rw [once since other waits also]
    exact late
  · simp [State.step, here, State.stepStart]

def State.OnTime (s : State) (o : Options) (log : Log) (now : Nat) : Prop :=
  ∀ op e live, s.starts[op]? = some (.terminating e live) →
    ∀ since, (since, .awaitEnd op) ∈ log → now ≤ since + o.stopTimeout

def Entries.OnTime (entries : Entries) (o : Options) : Prop :=
  ∀ (before : Entries) till t after, entries = before ++ (till, t) :: after →
    t.before.OnTime o before.log till

theorem Entries.OnTime.concat {entries : Entries} {till : Nat} {t : Taken} (h : entries.OnTime o)
    (last : t.before.OnTime o entries.log till) : Entries.OnTime (entries ++ [(till, t)]) o := by
  intro before till' t' after whole
  rcases append_cons_eq_concat whole.symm with ⟨rfl, same, rfl⟩ | ⟨between, rfl, shorter⟩
  · cases same
    exact last
  · exact h _ _ _ _ shorter.symm

variable {log : Log}

theorem Timed.moment (timed : Timed o now log s) (onTime : s.OnTime o log now)
    (taken : s.step o l = some (s', asked)) :
    ∃ till, now ≤ till ∧ Punctual o log till l ∧ s.OnTime o log till := by
  have h := timed.reachable.coherent
  -- Only a step that ends a wait has a time of its own; the others are taken at once.
  cases State.step_move taken with
  | enter | caller | worker | monitor => exact ⟨now, Nat.le_refl _, trivial, onTime⟩
  | start here move =>
    cases move with
    | outlast =>
      obtain ⟨since, patient⟩ := timed.patient here
      have waits := (patient.waits since).mpr rfl
      have limited := patient.limited _ (Nat.le_refl _)
      refine ⟨since + o.stopTimeout, onTime _ _ _ here since waits, limited, ?_⟩
      -- No other operation waits meanwhile, and this one began to only once.
      intro other e live there since' also
      have told := h.start_told.of_open here rfl
      cases told.symm.trans (h.start_told.of_open there rfl)
      exact Nat.le_of_eq (by rw [(patient.waits since').mp also])
    | watch move => cases move <;> exact ⟨now, Nat.le_refl _, trivial, onTime⟩
    | _ => exact ⟨now, Nat.le_refl _, trivial, onTime⟩
  | stop here move =>
    cases move with
    | outlast =>
      -- While a stop waits, no start operation does, so that it may take its time.
      refine ⟨_, Nat.le_add_right _ _, Punctual.of_patience timed.past _, ?_⟩
      intro other e live there
      cases (h.phase_of_stop here rfl).symm.trans (h.phase_of_start there rfl)
    | _ => exact ⟨now, Nat.le_refl _, trivial, onTime⟩

theorem Timed.step_onTime {till : Nat} (timed : Timed o now log s) (onTime : s.OnTime o log till)
    (taken : s.step o l = some (s', asked)) : s'.OnTime o (log ++ asked.map (till, ·)) till := by
  intro op e live there since member
  rcases List.mem_append.mp member with old | new
  · obtain ⟨p, here, waits⟩ := (timed.waits_once op).1 since old
    obtain ⟨q, after, rfl | ⟨_, _, _, leads⟩⟩ := (State.step_starts taken).onward here
    · cases there.symm.trans after
      exact onTime _ _ _ here since old
    · cases there.symm.trans after
      cases leads with
      | watch watched still => cases still
      | _ => cases waits
  · obtain ⟨_, _, same⟩ := List.mem_map.mp new
    cases same
    exact Nat.le_add_right _ _

/-- Whatever steps can be taken can be taken on time. -/
theorem Trail.on_time {steps : List Taken} (trail : Trail o steps s) :
    ∃ now entries, Chronicle o now entries s ∧ entries.steps = steps ∧ entries.OnTime o ∧
      s.OnTime o entries.log now := by
  induction trail with
  | new => exact ⟨0, [], .new, rfl, by simp [Entries.OnTime], by simp [State.OnTime]⟩
  | step trail taken ih =>
    obtain ⟨now, entries, chronicle, rfl, each, onTime⟩ := ih
    obtain ⟨till, onward, punctual, still⟩ := chronicle.timed.moment onTime taken
    refine ⟨till, _, chronicle.step onward punctual taken, by simp, each.concat still, ?_⟩
    rw [Entries.log_append, Entries.log_singleton]
    exact chronicle.timed.step_onTime still taken

end MissionWorker.Supervisor
