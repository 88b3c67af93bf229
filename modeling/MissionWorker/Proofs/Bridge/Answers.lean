import MissionWorker.Bridge.Exchange
import MissionWorker.Proofs.Bridge.Origin
import MissionWorker.Proofs.Supervisor.Retries
import MissionWorker.Proofs.Text.Utf8

namespace MissionWorker

namespace Json

namespace Reader

def blanks : List Char := [' ', '\t', '\n', '\x0C', '\r']

theorem value_of_blank {depth fuel : Nat} {cs : List Char} (blank : ∀ c ∈ cs, c ∈ blanks) :
    value depth fuel cs = none := by
  have kinds : ∀ c ∈ blanks, isSpace c = true ∨ c = '\x0C' := by simp [blanks, isSpace]
  have start : skip cs = [] ∨ ∃ rest, skip cs = '\x0C' :: rest := by
    cases left : skip cs with
    | nil => exact .inl rfl
    | cons c rest =>
      have inside : c ∈ skip cs := left ▸ List.mem_cons_self
      have member : c ∈ cs := (List.dropWhile_suffix isSpace).mem inside
      have solid : isSpace c = false := by
        have first := List.head?_dropWhile_not isSpace cs
        rw [← skip, left] at first
        simpa using first
      rcases kinds c (blank c member) with space | rfl
      · cases space.symm.trans solid
      · exact .inr ⟨rest, rfl⟩
  cases fuel with
  | zero => rfl
  | succ fuel =>
    unfold value
    rcases start with empty | ⟨rest, feed⟩
    · rw [empty]
      rfl
    · rw [feed]
      rfl

end Reader

theorem parseBytes?_of_blank {bytes : List UInt8} (blank : bytes.all Bridge.isBlankByte = true) :
    parseBytes? bytes = none := by
  have kinds : ∀ b ∈ ([0x20, 0x09, 0x0A, 0x0C, 0x0D] : List UInt8),
      b < 0x80 ∧ Char.ofNat b.toNat ∈ Reader.blanks := by simp [Reader.blanks]
  have kind (b : UInt8) (member : b ∈ bytes) : b < 0x80 ∧ Char.ofNat b.toNat ∈ Reader.blanks :=
    kinds b (of_decide_eq_true (List.all_eq_true.mp blank b member))
  have chars : ∀ c ∈ bytes.map fun b => Char.ofNat b.toNat, c ∈ Reader.blanks := by
    intro c member
    obtain ⟨b, inside, rfl⟩ := List.mem_map.mp member
    exact (kind b inside).2
  have text := Text.Utf8.decode?_of_ascii fun b member => (kind b member).1
  simp [parseBytes?, text, parse?, Reader.value_of_blank chars]

end Json

namespace Service.Failure

theorem ofText_status (status : Nat) (text : String) : (ofText status text).status = status := by
  unfold ofText
  split
  · rfl
  · rfl

theorem ofText_empty (status : Nat) : ofText status "" = ofStatus status := by
  have nothing : Json.parse? "" = none := by decide
  simp [ofText, nothing]

end Service.Failure

namespace Recovery

theorem Class.ofStatus_transient {status : Nat} :
    Class.ofStatus status = .transient ↔ 500 ≤ status ∧ status < 600 := by
  simp [ofStatus]

end Recovery

namespace Bridge

variable {b : Bridge} {net : Network} {before : Nat} {endpoint : String} {payload : Option Json}
  {r : Response} {e : Error}

theorem Response.isSuccess_iff : r.isSuccess = true ↔ 200 ≤ r.status ∧ r.status < 300 := by
  simp [isSuccess]

theorem Response.failure_status (r : Response) : r.failure.status = r.status := by
  unfold failure
  split
  all_goals exact Service.Failure.ofText_status _ _

theorem Response.failure_unread (short : r.delivery ≠ .whole) :
    r.failure = Service.Failure.ofStatus r.status := by
  unfold failure
  cases delivered : r.delivery with
  | whole => exact absurd delivered short
  | cut | stalled => exact Service.Failure.ofText_empty r.status

inductive Error.Restartable : Error → Prop where
  | unreachable (message : String) : Restartable (.unreachable message)
  | timedOut (message : String) : Restartable (.timedOut message)
  | rejected {failure : Service.Failure} (server : 500 ≤ failure.status ∧ failure.status < 600) :
    Restartable (.rejected failure)

theorem Error.restartable_iff : e.Restartable ↔ e.recovery = .transient := by
  constructor
  · rintro (_ | _ | server)
    · rfl
    · rfl
    · exact Recovery.Class.ofStatus_transient.mpr server
  · intro transient
    cases e with
    | unreachable => exact .unreachable _
    | timedOut => exact .timedOut _
    | rejected => exact .rejected (Recovery.Class.ofStatus_transient.mp transient)
    | malformed | invalidEndpoint => cases transient

/-- This response is the last that comes of a call. -/
def Delivers (b : Bridge) (net : Network) (before : Nat) (endpoint : String) (payload : Option Json)
    (r : Response) : Prop :=
  ∃ request, b.request endpoint payload = .ok request ∧
    (send net maxRedirections before request).1 = .ok r

theorem Delivers.exchange {α : Type} {read : Response → Except Error α}
    (delivered : b.Delivers net before endpoint payload r) :
    (b.exchange net before endpoint payload read).1 = read r := by
  obtain ⟨request, made, sent⟩ := delivered
  simp [Bridge.exchange, made, sent, Except.bind]

theorem Delivers.of_reply {request : Request} (made : b.request endpoint payload = .ok request)
    (understood : isUnderstood request.url = true) (replied : net before request = .response r)
    (final : redirected? request r = none) : b.Delivers net before endpoint payload r := by
  refine ⟨request, made, ?_⟩
  rw [send]
  simp [understood, answer, replied, final]

end Bridge

namespace Supervisor

variable {o : Options} {s : State} {i generation : Nat} {c : Caller} {e : Bridge.Error}
  {told : Except Bridge.Error Json}

theorem State.step_answer (here : s.callers[i]? = some c) (calling : c.point = .calling generation) :
    s.step o (.caller i (.callReturned told)) =
      some (s.setCaller i (receiveAnswer o c generation told), []) := by
  simp [step, here, stepCaller, calling, quietly]

inductive HandedOn (status : Nat) : Except Bridge.Error Json → Result → Prop where
  | value (v : Json) : HandedOn status (.ok v) (.ok v)
  | transient {failure : Service.Failure} (server : 500 ≤ status ∧ status < 600) :
    HandedOn status (.error (.rejected failure)) (.error (.transient (.rejected failure)))
  | domain {failure : Service.Failure} (other : ¬(500 ≤ status ∧ status < 600)) :
    HandedOn status (.error (.rejected failure)) (.error (.domain failure))
  | protocol (message : String) :
    HandedOn status (.error (.malformed message)) (.error (.protocol (.malformed message)))
  | late (message : String) :
    HandedOn status (.error (.timedOut message)) (.error (.transient (.timedOut message)))

theorem State.receiveAnswer_of_surface
    (surfaces : o.recovery.decide e.recovery c.used = .surface) :
    receiveAnswer o c generation (.error e) = { c with point := .returned (.error (.ofCall e)) } := by
  simp [receiveAnswer, surfaces]

theorem State.receiveAnswer_of_spent (spent : o.recovery.maxRestarts ≤ c.used) :
    receiveAnswer o c generation told =
      { c with point := .returned (told.mapError RequestError.ofCall) } := by
  cases told with
  | ok v => rfl
  | error e =>
    have surfaces : o.recovery.decide e.recovery c.used = .surface := by
      cases decided : o.recovery.decide e.recovery c.used with
      | surface => rfl
      | restart => exact absurd (Recovery.Policy.decide_restart decided).2 (Nat.not_lt.mpr spent)
    exact receiveAnswer_of_surface surfaces

end Supervisor

namespace Bridge

variable {b : Bridge} {net : Network} {before : Nat} {endpoint : String} {payload : Option Json}
  {r : Response}

theorem Response.value_of_failure (failed : ¬(200 ≤ r.status ∧ r.status < 300)) :
    r.value = .error (.rejected r.failure) := by
  have unsuccessful : r.isSuccess = false := by
    rw [← Response.isSuccess_iff] at failed
    simpa using failed
  simp [value, unsuccessful]

theorem Response.value_of_success (success : 200 ≤ r.status ∧ r.status < 300) :
    (∃ v, r.value = .ok v) ∨ (∃ message, r.value = .error (.malformed message)) ∨
      ∃ message, r.value = .error (.timedOut message) := by
  simp only [value, Response.isSuccess_iff.mpr success, Bool.not_true, Bool.false_eq_true, if_false]
  cases r.delivery with
  | cut => exact .inr (.inl ⟨_, rfl⟩)
  | stalled => exact .inr (.inr ⟨_, rfl⟩)
  | whole =>
    by_cases blank : r.body.all isBlankByte = true
    · simp [blank]
    · simp only [blank, Bool.false_eq_true, if_false]
      split
      · exact .inl ⟨_, rfl⟩
      · exact .inr (.inl ⟨_, rfl⟩)

theorem Response.value_of_whole (success : 200 ≤ r.status ∧ r.status < 300) (whole : r.delivery = .whole) :
    r.value = if r.body.all isBlankByte then .ok .null
      else (Json.parseBytes? r.body).elim (.error (.malformed "the body is not JSON")) .ok := by
  have parse : (Text.Utf8.decode? r.body).bind Json.parse? = Json.parseBytes? r.body := rfl
  simp only [value, isSuccess_iff.mpr success, whole, parse]
  cases Json.parseBytes? r.body with
  | none => rfl
  | some v => rfl

theorem Response.status_of_rejected {failure : Service.Failure}
    (rejected : r.value = .error (.rejected failure)) : failure.status = r.status := by
  by_cases success : 200 ≤ r.status ∧ r.status < 300
  · rcases r.value_of_success success with ⟨_, told⟩ | ⟨_, told⟩ | ⟨_, told⟩
    all_goals cases rejected.symm.trans told
  · rw [value_of_failure success] at rejected
    cases rejected
    exact r.failure_status

theorem Response.health_eq (r : Response) :
    (200 ≤ r.status ∧ r.status < 300 ∧ r.health = .ok ()) ∨
      ¬(200 ≤ r.status ∧ r.status < 300) ∧ ∃ e, r.value = .error e ∧ r.health = .error e := by
  by_cases success : 200 ≤ r.status ∧ r.status < 300
  · left
    refine ⟨success.1, success.2, ?_⟩
    simp [health, isSuccess_iff.mpr success]
  · right
    refine ⟨success, _, value_of_failure success, ?_⟩
    simp [health, isSuccess, success]

theorem Response.handedOn (r : Response) :
    Supervisor.HandedOn r.status r.value (r.value.mapError Supervisor.RequestError.ofCall) := by
  by_cases success : 200 ≤ r.status ∧ r.status < 300
  · rcases r.value_of_success success with ⟨v, told⟩ | ⟨message, told⟩ | ⟨message, told⟩
    · rw [told]
      exact .value v
    · rw [told]
      exact .protocol message
    · rw [told]
      exact .late message
  · rw [Response.value_of_failure success]
    by_cases server : 500 ≤ r.failure.status ∧ r.failure.status < 600
    · have transient : Error.isTransient (.rejected r.failure) = true := by
        simp [Error.isTransient, Error.recovery, Recovery.Class.ofStatus_transient.mpr server]
      show Supervisor.HandedOn _ _ (.error (.ofCall _))
      rw [Supervisor.RequestError.ofCall_of_transient transient]
      rw [Response.failure_status] at server
      exact .transient server
    · have fatal : Error.isTransient (.rejected r.failure) = false := by
        simp [Error.isTransient, Error.recovery, Recovery.Class.ofStatus, server]
      have handed : Supervisor.RequestError.ofCall (.rejected r.failure) = .domain r.failure := by
        simp [Supervisor.RequestError.ofCall, fatal]
      show Supervisor.HandedOn _ _ (.error (.ofCall _))
      rw [handed]
      rw [Response.failure_status] at server
      exact .domain server

/-- What becomes of a response, where `told` is what the call that got it comes back with. -/
structure Classified (r : Response) (told : Except Error Json) : Prop where
  nothing : 200 ≤ r.status → r.status < 300 → r.delivery = .whole →
    r.body.all isBlankByte = true → told = .ok .null
  value : ∀ v, 200 ≤ r.status → r.status < 300 → r.delivery = .whole →
    Json.parseBytes? r.body = some v → told = .ok v
  malformed : 200 ≤ r.status → r.status < 300 → r.delivery = .whole →
    r.body.all isBlankByte = false → Json.parseBytes? r.body = none →
    ∃ message, told = .error (.malformed message)
  rejected : ¬(200 ≤ r.status ∧ r.status < 300) → r.delivery = .whole →
    told = .error (.rejected (.ofText r.status (Text.Utf8.decodeLossy r.body)))
  unread : ¬(200 ≤ r.status ∧ r.status < 300) → r.delivery ≠ .whole →
    told = .error (.rejected {
      status := r.status
      message := Service.statusMessage r.status
      errors := []
      body := none })
  status : ∀ failure, told = .error (.rejected failure) → failure.status = r.status
  health : ∀ {b : Bridge} {net : Network} {before : Nat},
    b.Delivers net before Service.Endpoint.health none r →
      (200 ≤ r.status ∧ r.status < 300 ∧ (b.health net before).1 = .ok ()) ∨
        ¬(200 ≤ r.status ∧ r.status < 300) ∧
          ∃ e, told = .error e ∧ (b.health net before).1 = .error e
  handedOn : ∀ {o : Supervisor.Options} {s : Supervisor.State} {i generation : Nat}
    {c : Supervisor.Caller}, o.recovery.maxRestarts = 0 → s.callers[i]? = some c →
      c.point = .calling generation →
      ∃ result, Supervisor.HandedOn r.status told result ∧
        s.step o (.caller i (.callReturned told)) =
          some (s.setCaller i { c with point := .returned result }, [])
  restart : ∀ {e : Error} {policy : Recovery.Policy} {used : Nat},
    policy.decide e.recovery used = .restart → e.Restartable

theorem answers_classified (delivered : b.Delivers net before endpoint payload r) :
    Classified r (b.call net before endpoint payload).1 := by
  have told : (b.call net before endpoint payload).1 = r.value := delivered.exchange
  rw [told]
  exact {
    nothing := by
      intro least most whole blank
      rw [Response.value_of_whole ⟨least, most⟩ whole, blank, if_pos rfl]
    value := by
      intro v least most whole parsed
      have solid : r.body.all isBlankByte = false := by
        refine Bool.eq_false_iff.mpr fun blank => ?_
        cases parsed.symm.trans (Json.parseBytes?_of_blank blank)
      rw [Response.value_of_whole ⟨least, most⟩ whole, solid, parsed]
      rfl
    malformed := by
      intro least most whole solid unparsed
      rw [Response.value_of_whole ⟨least, most⟩ whole, solid, unparsed]
      exact ⟨_, rfl⟩
    rejected := by
      intro failed whole
      rw [Response.value_of_failure failed, Response.failure, whole]
    unread := by
      intro failed short
      rw [Response.value_of_failure failed, Response.failure_unread short]
      rfl
    status := fun _ rejected => Response.status_of_rejected rejected
    health := by
      intro b net before checked
      have well : (b.health net before).1 = r.health := checked.exchange
      rw [well]
      exact r.health_eq
    handedOn := by
      intro o s i generation c spent here calling
      refine ⟨_, r.handedOn, ?_⟩
      rw [Supervisor.State.step_answer here calling]
      rw [Supervisor.State.receiveAnswer_of_spent (by omega)]
    restart := by
      intro e policy used decided
      exact Error.restartable_iff.mpr (Recovery.Policy.decide_restart decided).1 }

theorem request_usual : usual.request "/grid/build" none = .ok {
    method := .get
    url := { usual.base with path := .steps ["grid".toList, "build".toList] }
    payload := none } := by
  have joined : usual.endpointUrl "/grid/build" = .ok { usual.base with
      path := .steps ["grid".toList, "build".toList] } := eq_ok_of_toOption (by decide +kernel)
  rw [request, joined]
  rfl

/-- A refusal that is cut short. -/
theorem answers_classified_of_refusal : ∃ r net, r.status = 503 ∧ r.delivery = .cut ∧
    usual.Delivers net 0 "/grid/build" none r ∧
    Classified r (usual.call net 0 "/grid/build" none).1 := by
  let r : Response := { status := 503, body := Text.Utf8.encode "overloaded", delivery := .cut }
  let net : Network := fun _ _ => .response r
  have delivered : usual.Delivers net 0 "/grid/build" none r :=
    .of_reply request_usual (by decide) rfl rfl
  exact ⟨r, net, rfl, rfl, delivered, answers_classified delivered⟩

end Bridge

end MissionWorker
