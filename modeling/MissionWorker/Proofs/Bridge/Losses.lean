import MissionWorker.Proofs.Bridge.Answers

namespace MissionWorker.Bridge

/-- There is no connection, or none that lasts until the head of a response has come, for a request
or for one that it is redirected to. -/
inductive LosesHead (net : Network) : Nat → Nat → Request → Prop where
  | here {redirections before : Nat} {request : Request}
    (understood : isUnderstood request.url = true) (lost : net before request = .lost) :
    LosesHead net redirections before request
  | onward {redirections before : Nat} {request next : Request} {r : Response}
    (understood : isUnderstood request.url = true) (replied : net before request = .response r)
    (moved : redirected? request r = some next)
    (later : LosesHead net redirections (before + 1) next) :
    LosesHead net (redirections + 1) before request

/-- A call loses its connection, before the head of a response has come, or with the body of this
response under way. -/
inductive LosesConnection (b : Bridge) (net : Network) (before : Nat) (endpoint : String)
    (payload : Option Json) : Option Response → Prop where
  | head {request : Request} (made : b.request endpoint payload = .ok request)
    (loses : LosesHead net maxRedirections before request) :
    LosesConnection b net before endpoint payload none
  | body {r : Response} (delivered : b.Delivers net before endpoint payload r)
    (cut : r.delivery = .cut) : LosesConnection b net before endpoint payload (some r)

inductive Response.LostAs : Option Response → Error → Prop where
  | unreachable (message : String) : LostAs none (.unreachable message)
  | malformed {r : Response} (message : String) (success : 200 ≤ r.status ∧ r.status < 300) :
    LostAs (some r) (.malformed message)
  | rejected {r : Response} (failed : ¬(200 ≤ r.status ∧ r.status < 300)) :
    LostAs (some r) (.rejected (.ofStatus r.status))

/-- What a loss is told as, and what a request does about it. -/
structure Loss (head : Option Response) (e : Error) : Prop where
  told : Response.LostAs head e
  transient : e.isTransient = true ↔ ∀ r, head = some r → 500 ≤ r.status ∧ r.status < 600
  restarts : e.isTransient = true → ∀ {o : Supervisor.Options} {s : Supervisor.State}
    {i generation : Nat} {c : Supervisor.Caller}, s.callers[i]? = some c →
      c.point = .calling generation → c.used < o.recovery.maxRestarts →
      s.step o (.caller i (.callReturned (.error e))) =
        some (s.setCaller i { c with point := .restarting generation, used := c.used + 1 }, [])
  givesUp : e.isTransient = false → ∀ {o : Supervisor.Options} {s : Supervisor.State}
    {i generation : Nat} {c : Supervisor.Caller}, s.callers[i]? = some c →
      c.point = .calling generation →
      s.step o (.caller i (.callReturned (.error e))) =
        some (s.setCaller i { c with point := .returned (.error (.ofCall e)) }, [])

variable {b : Bridge} {net : Network} {redirections before : Nat} {request : Request}
  {endpoint : String} {payload : Option Json} {head : Option Response} {e : Error}

theorem LosesHead.send (loses : LosesHead net redirections before request) :
    ∃ message, (Bridge.send net redirections before request).1 = .error (.unreachable message) := by
  induction loses with
  | @here _ _ request understood lost =>
    refine ⟨unanswered request, ?_⟩
    rw [Bridge.send]
    simp [understood, answer, lost, Error.ofFault]
  | onward understood replied moved _ ih =>
    obtain ⟨message, told⟩ := ih
    refine ⟨message, ?_⟩
    rw [Bridge.send]
    simp [understood, answer, replied, moved, told]

theorem LosesConnection.told (lost : b.LosesConnection net before endpoint payload head) :
    ∃ e, (b.call net before endpoint payload).1 = .error e ∧ Response.LostAs head e := by
  cases lost with
  | head made loses =>
    obtain ⟨message, told⟩ := loses.send
    refine ⟨_, ?_, .unreachable message⟩
    simp [call, exchange, made, told, Except.bind]
  | @body r delivered cut =>
    -- The head has come, so its status settles how the loss is read.
    have told : (b.call net before endpoint payload).1 = r.value := delivered.exchange
    rw [told]
    by_cases success : 200 ≤ r.status ∧ r.status < 300
    · refine ⟨_, ?_, .malformed (unread false).message success⟩
      simp [Response.value, Response.isSuccess_iff.mpr success, cut, Error.ofFault, unread]
    · have short : r.delivery ≠ .whole := by simp [cut]
      refine ⟨_, ?_, .rejected success⟩
      rw [Response.value_of_failure success, Response.failure_unread short]

theorem Response.LostAs.isTransient_iff (told : Response.LostAs head e) :
    e.isTransient = true ↔ ∀ r, head = some r → 500 ≤ r.status ∧ r.status < 600 := by
  have class_iff : e.isTransient = true ↔ e.Restartable := by
    simp [Error.isTransient, Error.restartable_iff]
  rw [class_iff]
  cases told with
  | unreachable message =>
    constructor
    · intro _ r came
      cases came
    · intro _
      exact .unreachable message
  | @malformed r message success =>
    constructor
    · intro restartable
      cases restartable
    · intro server
      have least := (server r rfl).1
      omega
  | @rejected r failed =>
    constructor
    · intro restartable _ came
      cases came
      cases restartable with
      | rejected server => exact server
    · intro server
      exact .rejected (server r rfl)

theorem connection_lost (lost : b.LosesConnection net before endpoint payload head) :
    ∃ e, (b.call net before endpoint payload).1 = .error e ∧ Loss head e := by
  obtain ⟨e, failed, told⟩ := lost.told
  refine ⟨e, failed, told, told.isTransient_iff, ?_, ?_⟩
  · intro transient o s i generation c here calling left
    have cause : e.recovery = .transient := by simpa [Error.isTransient] using transient
    rw [Supervisor.State.step_answer here calling]
    simp [Supervisor.State.receiveAnswer, cause, Recovery.Policy.decide, left]
  · intro fatal o s i generation c here calling
    have surfaces : o.recovery.decide e.recovery c.used = .surface := by
      rw [Error.recovery_of_fatal fatal]
      rfl
    rw [Supervisor.State.step_answer here calling]
    rw [Supervisor.State.receiveAnswer_of_surface surfaces]

theorem connection_lost_at_once : usual.LosesConnection .unreachable 0 "/grid/build" none none ∧
    ∃ e, (usual.call .unreachable 0 "/grid/build" none).1 = .error e ∧ Loss none e := by
  have lost : usual.LosesConnection .unreachable 0 "/grid/build" none none :=
    .head request_usual (.here (by decide) rfl)
  exact ⟨lost, connection_lost lost⟩

/-- A worker that ends while it sends its answer is not restarted. -/
theorem truncated_success_surfaces : ∃ net r e, r.status = 200 ∧
    usual.LosesConnection net 0 "/grid/build" none (some r) ∧
    (usual.call net 0 "/grid/build" none).1 = .error e ∧ e.isTransient = false ∧
    ∀ (policy : Recovery.Policy) (used : Nat), policy.decide e.recovery used = .surface := by
  let r : Response := { status := 200, body := Text.Utf8.encode "[1,", delivery := .cut }
  let net : Network := fun _ _ => .response r
  have delivered : usual.Delivers net 0 "/grid/build" none r :=
    .of_reply request_usual (by decide) rfl rfl
  have told : (usual.call net 0 "/grid/build" none).1 = r.value := delivered.exchange
  exact ⟨net, r, _, rfl, .body delivered rfl, told, rfl, fun _ _ => rfl⟩

end MissionWorker.Bridge
