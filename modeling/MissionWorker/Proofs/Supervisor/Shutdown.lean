import MissionWorker.Proofs.Supervisor.Delivery
import MissionWorker.Proofs.Supervisor.Lifecycle
import MissionWorker.Proofs.Supervisor.SingleFlight

namespace MissionWorker.Supervisor

variable {o : Options} {s s' : State} {l : Label} {asked more : List Event} {op : Nat}

theorem State.step_shuttingDown (taken : s.step o l = some (s', more))
    (closing : s.lifecycle.shuttingDown = true) : s'.lifecycle.shuttingDown = true := by
  cases State.step_move taken with
  | enter | worker => exact closing
  | start here move =>
    cases move with
    | register w =>
      show (s.releaseAny s.lifecycle.live).lifecycle.shuttingDown = true
      rw [releaseAny_lifecycle]
      exact closing
    | _ => exact closing
  | stop here move => cases move <;> exact closing
  | monitor here pending ended move => cases move <;> exact closing
  | caller here move =>
    cases move with
    | announce => rfl
    | _ => exact closing

theorem State.step_promoted (taken : s.step o l = some (s', more))
    (there : s'.starts[op]? = some (.resolved (.ok ()))) :
    s.starts[op]? = some (.resolved (.ok ())) ∨ ∃ live, s.starts[op]? = some (.verified live) ∧
      s.lifecycle.shuttingDown = false := by
  rcases (State.step_starts taken).origin there with old | ⟨p, here, a, _, move, leads⟩ | ⟨_, made, _⟩
  · exact .inl old
  · cases leads with
    | watch watched still => cases still
    | @promote live =>
      refine .inr ⟨live, here, ?_⟩
      cases move with
      | promote admitting => exact admitting
      | watch move =>
        have bound := (List.getElem?_eq_some_iff.mp here).1
        simp only [State.setStart, List.getElem?_set_self bound, Option.some.injEq] at there
        obtain ⟨_, _, still | ⟨_, failed, _⟩⟩ := move.watched
        · rw [there] at still
          cases still
        · rw [there] at failed
          cases failed
  · cases made

namespace Coherent

theorem step_idle (h : Coherent s) (taken : s.step o l = some (s', more))
    (closing : s.lifecycle.shuttingDown = true) (idle : s.lifecycle.phase = .idle) :
    s'.lifecycle.phase = .idle := by
  rcases h.step_phase taken with same | leads
  · rw [same, idle]
  · have starting : s'.lifecycle.phase = .starting := by
      generalize s'.lifecycle.phase = next at leads
      rw [idle] at leads
      cases leads
      rfl
    rcases h.step_creates taken with ⟨_, already⟩ | ⟨i, c, s₁, c', _, _, _, creates⟩
    · have contrary := already starting
      simp [idle] at contrary
    · have admitting := creates.admitting
      simp [closing] at admitting

theorem step_no_start (h : Coherent s) (taken : s.step o l = some (s', more))
    (closing : s.lifecycle.shuttingDown = true) : s'.starts.length = s.starts.length := by
  rcases h.step_creates taken with ⟨same, _⟩ | ⟨i, c, s₁, c', _, _, _, creates⟩
  · exact same
  · have admitting := creates.admitting
    simp [closing] at admitting

theorem step_stopOp (h : Coherent s) (taken : s.step o l = some (s', more))
    (told : s.lifecycle.stopOp = some op) :
    s'.lifecycle.stopOp = some op ∨ s'.lifecycle.phase = .idle := by
  have stopping : s.lifecycle.phase = .stopping := h.stopping.mp (by simp [told])
  have h' := h.step taken
  rcases h.step_phase taken with same | leads
  · left
    rw [stopping] at same
    obtain ⟨op', told'⟩ := Option.isSome_iff_exists.mp (h'.stopping.mpr same)
    obtain ⟨p, there, opened⟩ := (h'.stop_told op').mp told'
    have before : s.lifecycle.stopOp = some op' := by
      rcases (State.step_stops taken).origin there with
        old | ⟨q, here, _, _, _, leads⟩ | ⟨_, live, held, _⟩
      · exact h.stop_told.of_open old opened
      · exact h.stop_told.of_open here (leads.isOpen opened)
      · have gone := h.no_live (by simp [stopping]) (by simp [stopping])
        simp [gone] at held
    rw [told', ← before, told]
  · right
    generalize s'.lifecycle.phase = next at leads
    rw [stopping] at leads
    cases leads
    rfl

end Coherent

/-- A start operation that is not going to succeed. -/
def State.Doomed (s : State) (op : Nat) : Prop :=
  ∃ p, s.starts[op]? = some p ∧ (p.isOpen = true ∨ ∃ e, p.failure? = some e)

theorem State.step_doomed (taken : s.step o l = some (s', more))
    (closing : s.lifecycle.shuttingDown = true) (doomed : s.Doomed op) : s'.Doomed op := by
  obtain ⟨p, here, fate⟩ := doomed
  obtain ⟨q, there, rfl | ⟨a, rfl, _, leads⟩⟩ := (State.step_starts taken).onward here
  · exact ⟨q, there, fate⟩
  · refine ⟨q, there, ?_⟩
    rcases fate with opened | ⟨e, failed⟩
    · cases leads with
      | promote =>
        rcases State.step_promoted taken there with already | ⟨_, _, admitting⟩
        · cases here.symm.trans already
        · simp [closing] at admitting
      | watch watched still => exact .inl (StartPoint.isOpen_of_watched still)
      | abandon => exact .inr ⟨_, rfl⟩
      | publish => cases opened
      | _ => exact .inl rfl
    · cases leads with
      | watch watched | fail watched =>
        cases p <;> simp_all [StartPoint.watched?, StartPoint.failure?]
      | @publish r =>
        cases r with
        | ok => cases failed
        | error e => exact .inr ⟨e, rfl⟩
      | _ => cases failed

def Job.needsWorker : Job → Bool
  | .start | .request _ _ => true
  | .stop | .shutdown => false

theorem CallerMove.job {i : Nat} {c c' : Caller} {a : CallerAct}
    (move : CallerMove o s i c a s' c' more) : c'.job = c.job := by
  cases move with
  | @answer generation r =>
    cases r with
    | ok v => rfl
    | error e =>
      simp only [State.receiveAnswer]
      split <;> rfl
  | _ => rfl

/-- A caller is refused, or will be, unless it gives up. -/
def Caller.Refused (c : Caller) : Prop :=
  c.point = .ensuring ∨ c.point = .dropped ∨ c.point = .returned (.error (.startup .shuttingDown))

def State.Refuses (s : State) (i : Nat) : Prop :=
  ∀ c, s.callers[i]? = some c → c.job.needsWorker = true → c.Refused

theorem Coherent.step_refuses (h : Coherent s) (taken : s.step o l = some (s', more))
    (closing : s.lifecycle.shuttingDown = true) {i : Nat} (refuses : s.Refuses i) :
    s'.Refuses i := by
  intro c there needs
  rcases (State.step_callers taken).origin there with
    old | ⟨before, here, a, s₁, _, _, move⟩ | ⟨_, job, _, rfl⟩
  · exact refuses c old needs
  · rw [move.job] at needs
    have finished := move.unfinished
    rcases refuses before here needs with ensuring | dropped | returned
    · cases move with
      | drop => exact .inr (.inl rfl)
      | refuse => exact .inr (.inr rfl)
      | abort at_ lost => exact absurd lost h.not_lost
      | stopped at_ => rcases at_ with at_ | at_ <;> cases ensuring.symm.trans at_
      | _ => simp_all
    · exact absurd dropped finished.1
    · exact absurd returned (finished.2 _)
  · cases job with
    | start | request => exact .inl rfl
    | stop | shutdown => cases needs

theorem State.step_call {i : Nat} {endpoint : String} {payload : Option Json}
    (taken : s.step o l = some (s', more)) (called : .call i endpoint payload ∈ more) :
    l = .caller i .act ∧ ∃ c generation, s.callers[i]? = some c ∧
      c.job = .request endpoint payload ∧ c.point = .ensured generation := by
  cases State.step_move taken with
  | enter | monitor => cases called
  | start here move =>
    cases move with
    | watch move => cases move <;> simp at called
    | _ => simp at called
  | stop here move => cases move <;> simp at called
  | caller here move =>
    cases move with
    | call at_ wanted =>
      cases List.mem_singleton.mp called
      exact ⟨rfl, _, _, here, wanted, at_⟩
    | _ => simp at called
  | worker here held move => cases move <;> simp at called

theorem State.Refuses.never_calls {i : Nat} (refuses : s.Refuses i)
    (taken : s.step o l = some (s', more)) (endpoint : String) (payload : Option Json) :
    .call i endpoint payload ∉ more := by
  intro called
  obtain ⟨_, c, generation, here, wanted, ensured⟩ := State.step_call taken called
  have refused := refuses c here (by simp [Job.needsWorker, wanted])
  simp [Caller.Refused, ensured] at refused

def Caller.Closing (c : Caller) (s : State) : Prop :=
  match c.point with
  | .announcing | .dropped => True
  | .cancelling | .stopping | .outwaitingStart _ => s.lifecycle.shuttingDown = true
  | .outwaitingStop op => s.lifecycle.shuttingDown = true ∧
      (s.lifecycle.stopOp = some op ∨ s.lifecycle.phase = .idle)
  | .returned _ => s.lifecycle.shuttingDown = true ∧ s.lifecycle.phase = .idle
  | _ => False

namespace Coherent

theorem step_closing (h : Coherent s) (taken : s.step o l = some (s', more)) {c : Caller}
    (closes : c.Closing s) : c.Closing s' := by
  unfold Caller.Closing at closes ⊢
  split at closes
  · trivial
  · trivial
  · exact State.step_shuttingDown taken closes
  · exact State.step_shuttingDown taken closes
  · exact State.step_shuttingDown taken closes
  · obtain ⟨closing, told | idle⟩ := closes
    · exact ⟨State.step_shuttingDown taken closing, h.step_stopOp taken told⟩
    · exact ⟨State.step_shuttingDown taken closing, .inr (h.step_idle taken closing idle)⟩
  · exact ⟨State.step_shuttingDown taken closes.1, h.step_idle taken closes.1 closes.2⟩
  · exact closes.elim

theorem move_closing (h : Coherent s) {i : Nat} {c c' : Caller} {a : CallerAct}
    (move : CallerMove o s i c a s' c' more) (closes : c.Closing s) : c'.Closing s' := by
  cases move with
  | drop => trivial
  | announce => exact rfl
  | cancel at_ =>
    simp only [Caller.Closing, at_] at closes
    exact closes
  | haltIdle at_ idle =>
    simp only [Caller.Closing, at_] at closes
    exact ⟨closes, idle⟩
  | haltLost at_ lost => exact absurd (.inr lost) h.not_lost
  | haltEmpty at_ ready missing =>
    simp only [Caller.Closing, at_] at closes
    exact ⟨closes, rfl⟩
  | haltStart at_ =>
    simp only [Caller.Closing, at_] at closes
    exact closes
  | haltStop at_ stopping told =>
    simp only [Caller.Closing, at_] at closes
    exact ⟨closes, .inl told⟩
  | halt at_ =>
    simp only [Caller.Closing, at_] at closes
    exact ⟨closes, .inl rfl⟩
  | outwaitedStart at_ =>
    simp only [Caller.Closing, at_] at closes
    exact closes
  | @outwaitedStop op at_ final =>
    simp only [Caller.Closing, at_] at closes
    obtain ⟨closing, told | idle⟩ := closes
    · obtain ⟨p, there, opened⟩ := (h.stop_told op).mp told
      simp only [State.stopIsDone, there, Option.some_beq_some, beq_iff_eq] at final
      rw [final] at opened
      cases opened
    · exact ⟨closing, idle⟩
  | stopped at_ => rcases at_ with at_ | at_ <;> simp [Caller.Closing, at_] at closes
  | _ => simp_all [Caller.Closing]

end Coherent

theorem Caller.Closing.transfer {c : Caller} (closes : c.Closing s)
    (same : s'.lifecycle = s.lifecycle) : c.Closing s' := by
  unfold Caller.Closing at closes ⊢
  rw [same]
  exact closes

theorem Reachable.closing (reachable : Reachable o s) :
    ∀ {i : Nat} {c : Caller}, s.callers[i]? = some c → c.job = .shutdown → c.Closing s := by
  induction reachable using Reachable.induction with
  | new => simp
  | kept reachable known taken =>
    intro i c there wants
    have h := reachable.coherent
    rcases (State.step_callers taken).origin there with
      old | ⟨before, here, a, s₁, _, rfl, move⟩ | ⟨_, job, _, rfl⟩
    · exact h.step_closing taken (known old wants)
    · have closes := h.move_closing move (known here (move.job ▸ wants))
      exact closes.transfer rfl
    · cases wants
      trivial

theorem Accounted.ended_or_asked (h : Accounted o asked s) (coherent : Coherent s)
    (idle : s.lifecycle.phase = .idle) {w : Nat} (inside : w < s.workers.length) :
    s.hasEnded w = true ∨ 0 < terminations asked w := by
  rcases h.placed inside with ended | ⟨_, held⟩ | waited
  · exact .inl ended
  · exact absurd held (coherent.holds_of_idle idle _)
  · exact .inr (h.outlasted waited)

namespace Reachable

variable {labels : List Label}

theorem no_start (reachable : Reachable o s) (closing : s.lifecycle.shuttingDown = true)
    (goes : s.run o labels = some (s', more)) :
    s'.lifecycle.shuttingDown = true ∧ s'.starts.length = s.starts.length := by
  have kept {t u : State} {l : Label} {more : List Event} (reachable : Reachable o t)
      (holds : t.lifecycle.shuttingDown = true ∧ t.starts.length = s.starts.length)
      (taken : t.step o l = some (u, more)) :
      u.lifecycle.shuttingDown = true ∧ u.starts.length = s.starts.length := by
    have grown := reachable.coherent.step_no_start taken holds.1
    exact ⟨State.step_shuttingDown taken holds.1, grown.trans holds.2⟩
  exact reachable.stays kept ⟨closing, rfl⟩ goes

theorem doomed (reachable : Reachable o s) (closing : s.lifecycle.shuttingDown = true)
    (doomed : s.Doomed op) (goes : s.run o labels = some (s', more)) : s'.Doomed op := by
  have kept {t u : State} {l : Label} {more : List Event} (_ : Reachable o t)
      (holds : t.lifecycle.shuttingDown = true ∧ t.Doomed op)
      (taken : t.step o l = some (u, more)) : u.lifecycle.shuttingDown = true ∧ u.Doomed op :=
    ⟨State.step_shuttingDown taken holds.1, State.step_doomed taken holds.1 holds.2⟩
  exact (reachable.stays kept ⟨closing, doomed⟩ goes).2

theorem refuses {i : Nat} (reachable : Reachable o s) (closing : s.lifecycle.shuttingDown = true)
    (refuses : s.Refuses i) (goes : s.run o labels = some (s', more)) :
    s'.Refuses i ∧ ∀ endpoint payload, .call i endpoint payload ∉ more := by
  have kept {t u : State} {l : Label} {more : List Event} (reachable : Reachable o t)
      (holds : t.lifecycle.shuttingDown = true ∧ t.Refuses i)
      (taken : t.step o l = some (u, more)) : u.lifecycle.shuttingDown = true ∧ u.Refuses i :=
    ⟨State.step_shuttingDown taken holds.1, reachable.coherent.step_refuses taken holds.1 holds.2⟩
  refine ⟨(reachable.stays kept ⟨closing, refuses⟩ goes).2, ?_⟩
  intro endpoint payload called
  have silent {t u : State} {l : Label} {more : List Event} (_ : Reachable o t)
      (holds : t.lifecycle.shuttingDown = true ∧ t.Refuses i)
      (taken : t.step o l = some (u, more)) : ∀ e ∈ more, e ≠ .call i endpoint payload := by
    rintro e member rfl
    exact holds.2.never_calls taken endpoint payload member
  exact reachable.never kept silent ⟨closing, refuses⟩ goes _ called rfl

theorem idle_for_good (reachable : Reachable o s) (closing : s.lifecycle.shuttingDown = true)
    (idle : s.lifecycle.phase = .idle) (goes : s.run o labels = some (s', more)) :
    s'.lifecycle.phase = .idle ∧ ∀ op, .launch op ∉ more := by
  have kept {t u : State} {l : Label} {more : List Event} (reachable : Reachable o t)
      (holds : t.lifecycle.shuttingDown = true ∧ t.lifecycle.phase = .idle)
      (taken : t.step o l = some (u, more)) :
      u.lifecycle.shuttingDown = true ∧ u.lifecycle.phase = .idle :=
    ⟨State.step_shuttingDown taken holds.1, reachable.coherent.step_idle taken holds.1 holds.2⟩
  refine ⟨(reachable.stays kept ⟨closing, idle⟩ goes).2, ?_⟩
  intro op launched
  have silent {t u : State} {l : Label} {more : List Event} (reachable : Reachable o t)
      (holds : t.lifecycle.shuttingDown = true ∧ t.lifecycle.phase = .idle)
      (taken : t.step o l = some (u, more)) : ∀ e ∈ more, e ≠ .launch op := by
    rintro e member rfl
    have starting := (reachable.coherent.launch_alone taken member).1
    simp [holds.2] at starting
  exact reachable.never kept silent ⟨closing, idle⟩ goes _ launched rfl

end Reachable

/-- What a shutdown means from a state on, with all that was asked until then. -/
structure ShutdownFinal (o : Options) (asked : List Event) (s : State) : Prop where
  no_start : s.lifecycle.shuttingDown = true → ∀ {labels : List Label} {s' : State}
    {more : List Event}, s.run o labels = some (s', more) →
      s'.lifecycle.shuttingDown = true ∧ s'.starts.length = s.starts.length
  start_fails : s.lifecycle.shuttingDown = true → ∀ {op : Nat} {p : StartPoint},
    s.starts[op]? = some p → p.isOpen = true → ∀ {labels : List Label} {s' : State}
      {more : List Event} {q : StartPoint}, s.run o labels = some (s', more) →
      s'.starts[op]? = some q → q.isOpen = false → ∃ e, q.failure? = some e
  refuses : s.lifecycle.shuttingDown = true → ∀ {i : Nat} {c : Caller}, s.callers[i]? = some c →
    c.point = .ensuring → s.step o (.caller i .act) =
      some (s.setCaller i { c with point := .returned (.error (.startup .shuttingDown)) }, [])
  refused : s.lifecycle.shuttingDown = true → ∀ {i : Nat},
    (∀ c, s.callers[i]? = some c → c.job.needsWorker = true → c.point = .ensuring) →
    ∀ {labels : List Label} {s' : State} {more : List Event}, s.run o labels = some (s', more) →
      (∀ c, s'.callers[i]? = some c → c.job.needsWorker = true → c.Refused) ∧
      ∀ endpoint payload, .call i endpoint payload ∉ more
  finished : ∀ {i : Nat} {c : Caller} {r : Result}, s.callers[i]? = some c → c.job = .shutdown →
    c.point = .returned r → ∀ {labels : List Label} {s' : State} {more : List Event},
      s.run o labels = some (s', more) →
      s'.lifecycle.phase = .idle ∧ s'.lifecycle.live = none ∧ (∀ op, .launch op ∉ more) ∧
      ∀ {w : Nat}, w < s'.workers.length →
        s'.hasEnded w = true ∨ 0 < terminations (asked ++ more) w
  delivered : ∀ {labels : List Label} {s' : State} {more : List Event},
    s.run o labels = some (s', more) → s'.Delivers o (asked ++ more)

theorem shutdown_final (history : History o asked s) : ShutdownFinal o asked s := by
  have reachable : Reachable o s := Reachable.iff_history.mpr ⟨asked, history⟩
  exact {
    no_start := by
      intro closing labels s' more goes
      exact reachable.no_start closing goes
    start_fails := by
      intro closing op p here opened labels s' more q goes there closed
      obtain ⟨q', at_, still | failed⟩ := reachable.doomed closing ⟨p, here, .inl opened⟩ goes
      · cases at_.symm.trans there
        rw [closed] at still
        cases still
      · cases at_.symm.trans there
        exact failed
    refuses := by
      intro closing i c here ensuring
      simp [State.step, here, State.stepCaller, ensuring, State.ensure, closing, State.quietly]
    refused := by
      intro closing i asks labels s' more goes
      have refuses : s.Refuses i := fun c here needs => .inl (asks c here needs)
      exact reachable.refuses closing refuses goes
    finished := by
      intro i c r here wants returned labels s' more goes
      have closes := reachable.closing here wants
      simp only [Caller.Closing, returned] at closes
      obtain ⟨idle, silent⟩ := reachable.idle_for_good closes.1 closes.2 goes
      have h := (reachable.run goes).coherent
      refine ⟨idle, h.no_live (by simp [idle]) (by simp [idle]), silent, ?_⟩
      intro w inside
      exact (history.run goes).accounted.ended_or_asked h idle inside
    delivered := fun goes => (history.run goes).delivers }

/-- A start is under way, its worker being checked, when the shutdown comes. -/
theorem shutdown_final_while_starting : ∃ asked s, History .plain asked s ∧
    (∃ c, s.callers[1]? = some c ∧ c.job = .shutdown ∧ c.point = .returned (.ok .null)) ∧
    s.workers.length = 1 ∧ s.lifecycle.shuttingDown = true ∧ ShutdownFinal .plain asked s := by
  let labels : List Label := [.enter .start, .caller 0 .act, .start 0 .act,
    .start 0 (.launchReturned (.ok (some 1001))), .start 0 .act, .start 0 .act,
    .enter .shutdown, .caller 1 .act, .caller 1 .act, .caller 1 .act, .start 0 .noticeCancel,
    .start 0 .act, .start 0 .act, .worker 0 .receive, .worker 0 .vanish, .start 0 .noticeEnd,
    .start 0 .act, .start 0 .act, .caller 1 .act, .caller 1 .act]
  refine ⟨_, _, ⟨labels, rfl⟩, ⟨_, rfl, rfl, rfl⟩, rfl, rfl, ?_⟩
  exact shutdown_final ⟨labels, rfl⟩

end MissionWorker.Supervisor
