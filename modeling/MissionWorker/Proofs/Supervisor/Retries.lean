import MissionWorker.Proofs.Supervisor.Diary

namespace MissionWorker.Recovery.Policy

variable {policy : Policy} {cause : Class} {used : Nat}

theorem decide_restart (decided : policy.decide cause used = .restart) :
    cause = .transient ∧ used < policy.maxRestarts := by
  cases cause with
  | fatal => cases decided
  | transient =>
    by_cases within : used < policy.maxRestarts
    · exact ⟨rfl, within⟩
    · simp [decide, within] at decided

theorem decide_surface (decided : policy.decide cause used = .surface)
    (transient : cause = .transient) : policy.maxRestarts ≤ used := by
  subst transient
  by_cases within : used < policy.maxRestarts
  · simp [decide, within] at decided
  · exact Nat.le_of_not_lt within

end MissionWorker.Recovery.Policy

namespace MissionWorker.Bridge.Error

theorem recovery_of_fatal {e : Error} (fatal : e.isTransient = false) :
    e.recovery = .fatal := by
  unfold isTransient at fatal
  cases cause : e.recovery with
  | fatal => rfl
  | transient => simp [cause] at fatal

end MissionWorker.Bridge.Error

namespace MissionWorker.Supervisor

variable {o : Options} {s s' : State} {l : Label} {more : List Event} {steps : List Taken}
  {endpoint : String} {payload : Option Json}

def LastCall (deeds : List Deed) (r : Except Bridge.Error Json) : Prop :=
  ∃ earlier generation endpoint payload later,
    deeds = earlier ++ .call generation endpoint payload :: .answer r :: later ∧
      calls later = []

/-- A call that failed, after which a restart was asked for. -/
structure Round where
  generation : Nat
  error : Bridge.Error

def Round.deeds (endpoint : String) (payload : Option Json) (r : Round) : List Deed :=
  [.call r.generation endpoint payload, .answer (.error r.error), .restart r.generation]

def CallerPoint.seeks : CallerPoint → Bool
  | .ensuring | .awaitingStart _ | .awaitingStop _ | .ensured _ | .awaitingRestart _ => true
  | _ => false

inductive Ending (endpoint : String) (payload : Option Json) : List Deed → Prop where
  | nothing : Ending endpoint payload []
  | refused (e : StartupError) : Ending endpoint payload [.refusal e]
  | called (generation : Nat) : Ending endpoint payload [.call generation endpoint payload]
  | answered (generation : Nat) (r : Except Bridge.Error Json) :
    Ending endpoint payload [.call generation endpoint payload, .answer r]

/-- Where a caller is after so many rounds, what it has done since, and how many restarts it has asked
for. -/
inductive Standing (o : Options) (endpoint : String) (payload : Option Json) (n : Nat) :
    List Deed → Nat → CallerPoint → Prop where
  | seeking {p : CallerPoint} (seeks : p.seeks = true) : Standing o endpoint payload n [] n p
  | refused (e : StartupError) :
    Standing o endpoint payload n [.refusal e] n (.returned (.error (.startup e)))
  | calling (generation : Nat) :
    Standing o endpoint payload n [.call generation endpoint payload] n (.calling generation)
  | retrying (generation : Nat) {e : Bridge.Error} (transient : e.isTransient = true)
    (within : n < o.recovery.maxRestarts) :
    Standing o endpoint payload n [.call generation endpoint payload, .answer (.error e)] (n + 1)
      (.restarting generation)
  | valued (generation : Nat) (v : Json) :
    Standing o endpoint payload n [.call generation endpoint payload, .answer (.ok v)] n
      (.returned (.ok v))
  | failed (generation : Nat) (e : Bridge.Error)
    (surfaced : o.recovery.decide e.recovery n = .surface) :
    Standing o endpoint payload n [.call generation endpoint payload, .answer (.error e)] n
      (.returned (.error (.ofCall e)))
  | dropped {last : List Deed} {used : Nat} (ending : Ending endpoint payload last)
    (valueless : ∀ v, .answer (.ok v) ∉ last) : Standing o endpoint payload n last used .dropped

/-- How far a request has come. -/
structure Progress (o : Options) (endpoint : String) (payload : Option Json) (deeds : List Deed)
    (c : Caller) (rounds : List Round) (last : List Deed) : Prop where
  deeds : deeds = rounds.flatMap (Round.deeds endpoint payload) ++ last
  transient : ∀ r ∈ rounds, r.error.isTransient = true
  within : rounds.length ≤ o.recovery.maxRestarts
  standing : Standing o endpoint payload rounds.length last c.used c.point

theorem Standing.ending {n used : Nat} {last : List Deed} {p : CallerPoint}
    (standing : Standing o endpoint payload n last used p) : Ending endpoint payload last := by
  cases standing with
  | seeking => exact .nothing
  | refused e => exact .refused e
  | calling generation => exact .called generation
  | retrying generation | valued generation | failed generation => exact .answered generation _
  | dropped ending => exact ending

theorem Standing.of_seeks {n used : Nat} {last : List Deed} {p : CallerPoint}
    (standing : Standing o endpoint payload n last used p) (seeks : p.seeks = true) :
    last = [] ∧ used = n := by
  cases standing with
  | seeking => exact ⟨rfl, rfl⟩
  | _ => cases seeks

theorem Standing.of_value {n used : Nat} {last : List Deed} {p : CallerPoint} {v : Json}
    (standing : Standing o endpoint payload n last used p) (answered : .answer (.ok v) ∈ last) :
    p = .returned (.ok v) := by
  cases standing with
  | dropped ending valueless => exact absurd answered (valueless v)
  | _ => simp_all

namespace Progress

variable {deeds d : List Deed} {c c' : Caller} {rounds : List Round} {last : List Deed}

theorem standing_at {p : CallerPoint} (h : Progress o endpoint payload deeds c rounds last)
    (at_ : c.point = p) :
    ∃ used, c.used = used ∧ Standing o endpoint payload rounds.length last used p := by
  have standing := h.standing
  rw [at_] at standing
  exact ⟨_, rfl, standing⟩

theorem onward (h : Progress o endpoint payload deeds c rounds last)
    (standing : Standing o endpoint payload rounds.length (last ++ d) c'.used c'.point) :
    Progress o endpoint payload (deeds ++ d) c' rounds (last ++ d) where
  deeds := by rw [h.deeds, List.append_assoc]
  transient := h.transient
  within := h.within
  standing := standing

theorem again {generation : Nat} {e : Bridge.Error}
    (h : Progress o endpoint payload deeds c rounds
      [.call generation endpoint payload, .answer (.error e)])
    (transient : e.isTransient = true) (within : rounds.length < o.recovery.maxRestarts)
    (used : c'.used = rounds.length + 1) (seeks : c'.point.seeks = true) :
    Progress o endpoint payload (deeds ++ [.restart generation]) c'
      (rounds ++ [{ generation, error := e }]) [] where
  deeds := by
    rw [h.deeds]
    simp [Round.deeds]
  transient := by
    intro r member
    rcases List.mem_append.mp member with old | new
    · exact h.transient r old
    · rw [List.mem_singleton.mp new]
      exact transient
  within := by
    rw [List.length_append]
    exact within
  standing := by
    have length : (rounds ++ [({ generation, error := e } : Round)]).length = rounds.length + 1 := by
      simp
    rw [used, length]
    exact .seeking seeks

theorem answer {generation : Nat} (h : Progress o endpoint payload deeds c rounds last)
    (here : c.point = .calling generation) (r : Except Bridge.Error Json) :
    Progress o endpoint payload (deeds ++ [.answer r]) (State.receiveAnswer o c generation r) rounds
      (last ++ [.answer r]) := by
  apply h.onward
  obtain ⟨n, used, standing⟩ := h.standing_at here
  cases standing with
  | seeking seeks => cases seeks
  | calling =>
    cases r with
    | ok v =>
      rw [State.receiveAnswer, used]
      exact .valued generation v
    | error e =>
      cases decided : o.recovery.decide e.recovery rounds.length with
      | surface =>
        simp only [State.receiveAnswer, used, decided]
        exact .failed generation e decided
      | restart =>
        obtain ⟨transient, within⟩ := Recovery.Policy.decide_restart decided
        simp only [State.receiveAnswer, used, decided]
        exact .retrying generation (by simp [Bridge.Error.isTransient, transient]) within

theorem restart {generation : Nat} (h : Progress o endpoint payload deeds c rounds last)
    (here : c.point = .restarting generation) (used : c'.used = c.used)
    (seeks : c'.point.seeks = true) :
    ∃ rounds last, Progress o endpoint payload (deeds ++ [.restart generation]) c' rounds last := by
  obtain ⟨n, before, standing⟩ := h.standing_at here
  cases standing with
  | seeking seeks => cases seeks
  | retrying _ transient within =>
    exact ⟨_, _, h.again transient within (used.trans before) seeks⟩

theorem seek (h : Progress o endpoint payload deeds c rounds last) (sought : c.point.seeks = true)
    (used : c'.used = c.used)
    (next : Standing o endpoint payload rounds.length d rounds.length c'.point) :
    Progress o endpoint payload (deeds ++ d) c' rounds d := by
  obtain ⟨rfl, before⟩ := h.standing.of_seeks sought
  apply h.onward
  rw [used, before]
  exact next

theorem drop (h : Progress o endpoint payload deeds c rounds last) (waiting : State.isWaiting c.point) :
    Progress o endpoint payload (deeds ++ []) { c with point := .dropped } rounds (last ++ []) := by
  -- One who still waits has no value yet.
  have valueless (v : Json) (answered : .answer (.ok v) ∈ last) : False := by
    rw [h.standing.of_value answered] at waiting
    cases waiting
  apply h.onward
  rw [List.append_nil]
  exact .dropped h.standing.ending valueless

theorem move (h : Progress o endpoint payload deeds c rounds last)
    (wanted : c.job = .request endpoint payload) {i : Nat} {a : CallerAct}
    (move : CallerMove o s i c a s' c' more) :
    ∃ rounds last, Progress o endpoint payload (deeds ++ c.deeds c' more a) c' rounds last := by
  cases move with
  | drop waiting => exact ⟨_, _, h.drop waiting⟩
  | answer r at_ => exact ⟨_, _, h.answer at_ r⟩
  | refuse at_ | abort at_ | startFailed at_ =>
    have sought : c.point.seeks = true := by rw [at_]; rfl
    simp only [Caller.deeds, at_]
    exact ⟨_, _, h.seek sought rfl (.refused _)⟩
  | find at_ | join at_ | queue at_ | create at_ | started at_ =>
    have sought : c.point.seeks = true := by rw [at_]; rfl
    simp only [Caller.deeds, at_]
    exact ⟨_, _, h.seek sought rfl (.seeking rfl)⟩
  | stopped at_ =>
    have sought : c.point.seeks = true := by
      rcases at_ with at_ | at_
      · rw [at_]; rfl
      · rw [at_]; rfl
    have silent : c.deeds { c with point := .ensuring } [] .act = [] := by
      rcases at_ with at_ | at_
      · simp [Caller.deeds, at_, CallerPoint.refusal?]
      · simp [Caller.deeds, at_, CallerPoint.refusal?]
    rw [silent]
    exact ⟨_, _, h.seek sought rfl (.seeking rfl)⟩
  | @call generation _ _ at_ asked =>
    have sought : c.point.seeks = true := by rw [at_]; rfl
    simp only [Caller.deeds, at_]
    cases wanted.symm.trans asked
    exact ⟨_, _, h.seek sought rfl (.calling generation)⟩
  | finish at_ other => exact absurd wanted (other _ _)
  | restart at_ | restartEnded at_ | restartStale at_ =>
    simp only [Caller.deeds, at_]
    exact h.restart at_ rfl rfl
  | announce at_ | cancel at_ | haltIdle at_ | haltLost at_ | haltEmpty at_ | haltStart at_ | haltStop at_
  | halt at_ | outwaitedStart at_ | outwaitedStop at_ =>
    obtain ⟨_, _, standing⟩ := h.standing_at at_
    cases standing with
    | seeking seeks => cases seeks

theorem new {job : Job} (wanted : job = .request endpoint payload) :
    Progress o endpoint payload [] { job, point := State.entry job } [] [] where
  deeds := rfl
  transient := by simp
  within := Nat.zero_le _
  standing := by
    rw [wanted]
    exact .seeking rfl

end Progress

namespace Trail

variable {i : Nat} {c : Caller}

theorem progress (trail : Trail o steps s) (here : s.callers[i]? = some c)
    (wanted : c.job = .request endpoint payload) :
    ∃ rounds last, Progress o endpoint payload (diary steps i) c rounds last := by
  induction trail generalizing c with
  | new => simp at here
  | @step steps s s' l asked trail taken ih =>
    rw [diary_append]
    -- A caller moves in steps of its own only; in all others its diary stays as it is.
    by_cases own : ∃ a, l = .caller i a
    · obtain ⟨a, rfl⟩ := own
      obtain ⟨before, after, s₁, there, moved, rfl, move, deeds⟩ := State.step_own taken
      cases here.symm.trans moved
      have job : before.job = .request endpoint payload := by rw [← move.job, wanted]
      obtain ⟨rounds, last, progress⟩ := ih there job
      rw [deeds]
      exact progress.move job move
    · have other (a : CallerAct) : l ≠ .caller i a := fun same => own ⟨a, same⟩
      rw [Taken.deeds_of_other other, List.append_nil]
      rcases (State.step_callers taken).origin here with
        old | ⟨_, _, a, _, same, _⟩ | ⟨new, job, _, rfl⟩
      · exact ih old wanted
      · exact absurd same (other a)
      · have missing : s.callers[i]? = none := List.getElem?_eq_none_iff.mpr (Nat.le_of_eq new.symm)
        rw [trail.diary_of_missing missing]
        exact ⟨_, _, .new wanted⟩

end Trail

def State.HasReturned (s : State) (i : Nat) : Prop :=
  ∃ c r, s.callers[i]? = some c ∧ c.point = .returned r

namespace State.HasReturned

variable {i : Nat}

theorem no_step (returned : s.HasReturned i) (a : CallerAct) : s.step o (.caller i a) = none := by
  obtain ⟨c, r, here, at_⟩ := returned
  apply Option.eq_none_iff_forall_ne_some.mpr
  rintro ⟨s', more⟩ taken
  obtain ⟨c', _, _, there, _, _, move, _⟩ := State.step_own taken
  cases here.symm.trans there
  exact move.unfinished.2 r at_

theorem step (returned : s.HasReturned i) (taken : s.step o l = some (s', more)) :
    s'.HasReturned i := by
  obtain ⟨c, r, here, at_⟩ := returned
  obtain ⟨c', there, rfl | ⟨_, _, _, _, move⟩⟩ := (State.step_callers taken).onward here
  · exact ⟨c', r, there, at_⟩
  · exact absurd at_ (move.unfinished.2 r)

end State.HasReturned

theorem Reachable.fatal (reachable : Reachable o s) {i : Nat} {e : Bridge.Error}
    (taken : s.step o (.caller i (.callReturned (.error e))) = some (s', more))
    (fatal : e.isTransient = false) :
    s'.lifecycle = s.lifecycle ∧ s'.restarts = s.restarts ∧ more = [] ∧
      ∀ {labels : List Label} {u : State} {asked : List Event} {a : CallerAct},
        s'.run o labels = some (u, asked) → u.step o (.caller i a) = none := by
  have onward := reachable.step taken
  obtain ⟨c, c', s₁, here, there, rfl, move, _⟩ := State.step_own taken
  cases move with
  | @answer generation _ at_ =>
    have point : (State.receiveAnswer o c generation (.error e)).point =
        .returned (.error (.ofCall e)) := by
      simp [State.receiveAnswer, Bridge.Error.recovery_of_fatal fatal, Recovery.Policy.decide]
    refine ⟨rfl, rfl, rfl, ?_⟩
    intro labels u asked a goes
    have now : State.HasReturned _ i := ⟨_, _, there, point⟩
    have later : u.HasReturned i :=
      onward.stays (fun _ (returned : State.HasReturned _ i) taken => returned.step taken) now goes
    exact later.no_step a

namespace Progress

variable {deeds : List Deed} {c : Caller} {rounds : List Round} {last : List Deed}

theorem calls (h : Progress o endpoint payload deeds c rounds last) :
    Supervisor.calls deeds =
      List.replicate rounds.length (endpoint, payload) ++ Supervisor.calls last := by
  have round : ∀ rounds : List Round, Supervisor.calls (rounds.flatMap (Round.deeds endpoint payload)) =
      List.replicate rounds.length (endpoint, payload) := by
    intro rounds
    induction rounds with
    | nil => rfl
    | cons r rounds ih =>
      rw [List.length_cons, List.replicate_succ, ← ih]
      rfl
  rw [h.deeds, ← round, Supervisor.calls, List.filterMap_append]
  rfl

theorem of_value (h : Progress o endpoint payload deeds c rounds last) {v : Json}
    (answered : .answer (.ok v) ∈ deeds) : c.point = .returned (.ok v) := by
  rw [h.deeds] at answered
  rcases List.mem_append.mp answered with early | late
  · obtain ⟨r, _, told⟩ := List.mem_flatMap.mp early
    simp [Round.deeds] at told
  · exact h.standing.of_value late

end Progress

namespace RequestError

variable {e : Bridge.Error}

theorem ofCall_of_transient (transient : e.isTransient = true) : ofCall e = .transient e := by
  simp [ofCall, transient]

theorem ofCall_of_fatal (fatal : e.isTransient = false) :
    (∃ failure, e = .rejected failure ∧ ofCall e = .domain failure) ∨ ofCall e = .protocol e := by
  cases e with
  | rejected failure =>
    left
    refine ⟨failure, rfl, ?_⟩
    simp [ofCall, fatal]
  | _ =>
    right
    simp [ofCall, fatal]

end RequestError

/-- Why a request failed, and what it had done until then. -/
inductive Fails (o : Options) (deeds : List Deed) (rounds : Nat) (last : List Deed) :
    RequestError → Prop where
  | refused (e : StartupError) (ends : last = [.refusal e]) : Fails o deeds rounds last (.startup e)
  | spent {e : Bridge.Error} (transient : e.isTransient = true) (told : LastCall deeds (.error e))
    (full : rounds = o.recovery.maxRestarts) (called : (calls last).length = 1) :
    Fails o deeds rounds last (.transient e)
  | rejected {failure : Service.Failure} (fatal : (Bridge.Error.rejected failure).isTransient = false)
    (told : LastCall deeds (.error (.rejected failure))) : Fails o deeds rounds last (.domain failure)
  | unusable {e : Bridge.Error} (fatal : e.isTransient = false) (told : LastCall deeds (.error e)) :
    Fails o deeds rounds last (.protocol e)

theorem Ending.calls {last : List Deed} (ending : Ending endpoint payload last) :
    Supervisor.calls last = [] ∨ Supervisor.calls last = [(endpoint, payload)] := by
  cases ending with
  | nothing | refused => exact .inl rfl
  | called | answered => exact .inr rfl

namespace Progress

variable {deeds : List Deed} {c : Caller} {rounds : List Round} {last : List Deed}

theorem length_calls (h : Progress o endpoint payload deeds c rounds last) :
    (Supervisor.calls deeds).length = rounds.length + (Supervisor.calls last).length := by
  rw [h.calls, List.length_append, List.length_replicate]

theorem few (h : Progress o endpoint payload deeds c rounds last) :
    (Supervisor.calls deeds).length ≤ o.recovery.maxRestarts + 1 := by
  have within := h.within
  rcases h.standing.ending.calls with none | one
  · rw [h.length_calls, none, List.length_nil]
    omega
  · rw [h.length_calls, one, List.length_singleton]
    omega

theorem same (h : Progress o endpoint payload deeds c rounds last) :
    ∀ call ∈ Supervisor.calls deeds, call = (endpoint, payload) := by
  intro call member
  rw [h.calls] at member
  rcases List.mem_append.mp member with early | late
  · exact List.eq_of_mem_replicate early
  · rcases h.standing.ending.calls with none | one
    · rw [none] at late
      cases late
    · rw [one] at late
      exact List.mem_singleton.mp late

theorem last_call (h : Progress o endpoint payload deeds c rounds last) {generation : Nat}
    {r : Except Bridge.Error Json} (ends : last = [.call generation endpoint payload, .answer r]) :
    LastCall deeds r := by
  refine ⟨rounds.flatMap (Round.deeds endpoint payload), generation, endpoint, payload, [], ?_, rfl⟩
  rw [h.deeds, ends]

theorem value (h : Progress o endpoint payload deeds c rounds last) {v : Json}
    (back : c.point = .returned (.ok v)) : LastCall deeds (.ok v) := by
  obtain ⟨_, _, standing⟩ := h.standing_at back
  cases standing with
  | seeking seeks => cases seeks
  | valued generation => exact h.last_call rfl

theorem fails (h : Progress o endpoint payload deeds c rounds last) {x : RequestError}
    (back : c.point = .returned (.error x)) : Fails o deeds rounds.length last x := by
  have within := h.within
  obtain ⟨_, _, standing⟩ := h.standing_at back
  cases standing with
  | seeking seeks => cases seeks
  | refused e => exact .refused e rfl
  | failed generation e surfaced =>
    have told : LastCall deeds (.error e) := h.last_call rfl
    cases transient : e.isTransient with
    | true =>
      have cause : e.recovery = .transient := by simpa [Bridge.Error.isTransient] using transient
      have full := Recovery.Policy.decide_surface surfaced cause
      rw [RequestError.ofCall_of_transient transient]
      exact .spent transient told (Nat.le_antisymm within full) rfl
    | false =>
      rcases RequestError.ofCall_of_fatal transient with ⟨failure, rfl, domain⟩ | protocol
      · rw [domain]
        exact .rejected transient told
      · rw [protocol]
        exact .unusable transient told

end Progress

end MissionWorker.Supervisor
