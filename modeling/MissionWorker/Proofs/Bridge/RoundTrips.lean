import MissionWorker.Proofs.Bridge.Losses

namespace MissionWorker.Bridge

/-- A response sends a call elsewhere by its status and a location that makes sense beside the URL it
answers for. -/
def Response.LeadsAway (r : Response) (q : Request) : Prop :=
  r.status ∈ [301, 302, 303, 307, 308] ∧ ∃ text url, r.location = some text ∧ q.url.join text = .ok url

/-- What comes of a request that may be redirected so often, and all requests sent on the way. -/
inductive Journey (net : Network) :
    (redirections before : Nat) → Request → Except Error Response → List Request → Prop where
  | nowhere {n before : Nat} {q : Request} (foreign : isUnderstood q.url = false) :
    Journey net n before q (.error (.invalidEndpoint "builder error")) []
  | lost {n before : Nat} {q : Request} (known : isUnderstood q.url = true)
    (reply : net before q = .lost) : Journey net n before q (.error (.unreachable (unanswered q))) [q]
  | late {n before : Nat} {q : Request} (known : isUnderstood q.url = true)
    (reply : net before q = .silent) : Journey net n before q (.error (.timedOut (unanswered q))) [q]
  | arrived {n before : Nat} {q : Request} {r : Response} (known : isUnderstood q.url = true)
    (reply : net before q = .response r) (stays : redirected? q r = none) :
    Journey net n before q (.ok r) [q]
  | tooFar {before : Nat} {q next : Request} {r : Response} (known : isUnderstood q.url = true)
    (reply : net before q = .response r) (moved : redirected? q r = some next) :
    Journey net 0 before q (.error (.unreachable (Bridge.tooFar next))) [q]
  | onward {n before : Nat} {q next : Request} {r : Response} {result : Except Error Response}
    {sent : List Request} (known : isUnderstood q.url = true) (reply : net before q = .response r)
    (moved : redirected? q r = some next) (later : Journey net n (before + 1) next result sent) :
    Journey net (n + 1) before q result (q :: sent)

inductive Linked (net : Network) : (before : Nat) → List Request → Prop where
  | none {before : Nat} : Linked net before []
  | one {before : Nat} {q : Request} : Linked net before [q]
  | more {before : Nat} {q next : Request} {r : Response} {rest : List Request}
    (reply : net before q = .response r) (moved : redirected? q r = some next)
    (later : Linked net (before + 1) (next :: rest)) : Linked net before (q :: next :: rest)

variable {b : Bridge} {net : Network} {n before : Nat} {q next : Request} {r : Response}
  {endpoint : String} {payload : Option Json} {result : Except Error Response} {sent : List Request}

inductive Request.Again (q next : Request) : Prop where
  | asking (method : next.method = .get) (payload : next.payload = none)
  | same (method : next.method = q.method) (payload : next.payload = q.payload)

theorem redirected?_eq_some (moved : redirected? q r = some next) : r.LeadsAway q ∧ q.Again next := by
  have aimed {again : Request} (found : (r.location.bind fun text =>
      (q.url.join text).toOption.bind fun url => some { again with url }) = some next) :
      (∃ text url, r.location = some text ∧ q.url.join text = .ok url) ∧
        next.method = again.method ∧ next.payload = again.payload := by
    simp only [Option.bind_eq_some_iff] at found
    obtain ⟨text, located, url, joined, same⟩ := found
    cases same
    exact ⟨⟨text, url, located, eq_ok_of_toOption joined⟩, rfl, rfl⟩
  unfold redirected? at moved
  split at moved
  case h_1 status | h_2 status | h_3 status =>
    obtain ⟨place, method, payload⟩ := aimed moved
    exact ⟨⟨by simp [status], place⟩, .asking method payload⟩
  case h_4 status | h_5 status =>
    obtain ⟨place, method, payload⟩ := aimed moved
    exact ⟨⟨by simp [status], place⟩, .same method payload⟩
  case h_6 => cases moved

theorem redirected?_eq_none (home : ¬r.LeadsAway q) : redirected? q r = none := by
  cases moved : redirected? q r with
  | none => rfl
  | some next => exact absurd (redirected?_eq_some moved).1 home

theorem send_journey_of_moved
    (away : ∀ {r next}, isUnderstood q.url = true → net before q = .response r →
      redirected? q r = some next → Journey net n before q (send net n before q).1 (send net n before q).2) :
    Journey net n before q (send net n before q).1 (send net n before q).2 := by
  cases known : isUnderstood q.url with
  | false =>
    rw [send]
    simpa [known, Error.ofFault] using Journey.nowhere known
  | true =>
    cases reply : net before q with
    | lost =>
      rw [send]
      simpa [known, answer, reply, Error.ofFault] using Journey.lost known reply
    | silent =>
      rw [send]
      simpa [known, answer, reply, Error.ofFault] using Journey.late known reply
    | response r =>
      cases moved : redirected? q r with
      | none =>
        rw [send]
        simpa [known, answer, reply, moved] using Journey.arrived known reply moved
      | some next => exact away known reply moved

theorem send_journey (net : Network) (n before : Nat) (q : Request) :
    Journey net n before q (send net n before q).1 (send net n before q).2 := by
  induction n generalizing before q with
  | zero =>
    apply send_journey_of_moved
    intro r next known reply moved
    rw [send]
    simpa [known, answer, reply, moved, Error.ofFault] using Journey.tooFar known reply moved
  | succ n ih =>
    apply send_journey_of_moved
    intro r next known reply moved
    rw [send]
    simpa [known, answer, reply, moved] using Journey.onward known reply moved (ih (before + 1) next)

namespace Journey

theorem head (h : Journey net n before q result sent) : sent = [] ∨ ∃ rest, sent = q :: rest := by
  cases h with
  | nowhere => exact .inl rfl
  | lost | late | arrived | tooFar => exact .inr ⟨[], rfl⟩
  | onward => exact .inr ⟨_, rfl⟩

theorem length_le (h : Journey net n before q result sent) : sent.length ≤ n + 1 := by
  induction h with
  | nowhere | lost | late | arrived | tooFar => simp
  | onward known reply moved later ih => simpa using ih

theorem linked (h : Journey net n before q result sent) : Linked net before sent := by
  induction h with
  | nowhere => exact .none
  | lost | late | arrived | tooFar => exact .one
  | onward known reply moved later ih =>
    rcases later.head with empty | ⟨rest, next⟩
    · rw [empty]
      exact .one
    · rw [next] at ih ⊢
      exact .more reply moved ih

theorem forall_sent {Kind : Request → Prop} (h : Journey net n before q result sent) (first : Kind q)
    (keeps : ∀ {q next r}, Kind q → redirected? q r = some next → Kind next) : ∀ p ∈ sent, Kind p := by
  induction h with
  | nowhere => simp
  | lost | late | arrived | tooFar => simpa using first
  | onward known reply moved later ih =>
    intro p member
    rcases List.mem_cons.mp member with rfl | member
    · exact first
    · exact ih (keeps first moved) p member

theorem sent_of_home (h : Journey net n before q result sent)
    (home : ∀ r, net before q = .response r → ¬r.LeadsAway q) :
    sent = if isUnderstood q.url then [q] else [] := by
  cases h with
  | nowhere foreign => simp [foreign]
  | lost known | late known | arrived known | tooFar known => simp [known]
  | onward known reply moved =>
    cases (redirected?_eq_none (home _ reply)).symm.trans moved

theorem result_of_last (h : Journey net n before q result sent) {last : Request}
    (ends : sent.getLast? = some last)
    (reply : net (before + (sent.length - 1)) last = .response r) (home : ¬r.LeadsAway last) :
    result = .ok r := by
  have stays := redirected?_eq_none home
  induction h with
  | nowhere => cases ends
  | lost known gone | late known gone =>
    cases ends
    cases gone.symm.trans reply
  | arrived known came =>
    cases ends
    cases came.symm.trans reply
    rfl
  | tooFar known came moved =>
    cases ends
    cases came.symm.trans reply
    cases stays.symm.trans moved
  | @onward n before q next _ _ sent known came moved later ih =>
    rcases later.head with empty | ⟨rest, next⟩
    · rw [empty] at ends reply
      cases ends
      cases came.symm.trans reply
      cases stays.symm.trans moved
    · apply ih
      · rw [next] at ends ⊢
        simpa using ends
      · have place : before + ((q :: sent).length - 1) = before + 1 + (sent.length - 1) := by
          rw [next]
          simp only [List.length_cons]
          omega
        rwa [place] at reply

end Journey

theorem request_ok (made : b.request endpoint payload = .ok q) :
    b.endpointUrl endpoint = .ok q.url ∧ q.payload = payload ∧
      q.method = if payload.isSome then .post else .get := by
  unfold request at made
  cases found : b.endpointUrl endpoint with
  | error e => simp [found, Except.map] at made
  | ok url =>
    rw [found] at made
    cases made
    exact ⟨rfl, rfl, rfl⟩

theorem request_of_nowhere {e : Error} (nowhere : b.endpointUrl endpoint = .error e) :
    b.request endpoint payload = .error e := by
  rw [request, nowhere]
  rfl

theorem call_journey (net : Network) (before : Nat) (made : b.request endpoint payload = .ok q) :
    ∃ result,
    Journey net maxRedirections before q result (b.call net before endpoint payload).2 ∧
      (b.call net before endpoint payload).1 = result.bind Response.value := by
  have journey := send_journey net maxRedirections before q
  refine ⟨(send net maxRedirections before q).1, ?_, ?_⟩
  · simpa [call, exchange, made] using journey
  · simp [call, exchange, made]

theorem call_of_error {e : Error} (unmade : b.request endpoint payload = .error e) :
    b.call net before endpoint payload = (.error e, []) := by
  simp [call, exchange, unmade]

/-- The requests of a call, and what it comes back with. -/
structure RoundTrips (b : Bridge) (net : Network) (before : Nat) (endpoint : String)
    (payload : Option Json) (told : Except Error Json) (sent : List Request) : Prop where
  unsent : ∀ e, b.endpointUrl endpoint = .error e → told = .error e ∧ sent = []
  first : ∀ q, sent.head? = some q → b.endpointUrl endpoint = .ok q.url ∧ q.payload = payload ∧
    q.method = (if payload.isSome then .post else .get) ∧
    q.contentType? = payload.map fun _ => "application/json"
  linked : Linked net before sent
  few : sent.length ≤ maxRedirections + 1
  kinds : ∀ q ∈ sent, q.method = .get ∧ q.payload = none ∨
    q.method = .post ∧ q.payload = payload ∧ payload.isSome = true
  single : ∀ q, b.request endpoint payload = .ok q →
    (∀ r, net before q = .response r → ¬r.LeadsAway q) →
    sent = if isUnderstood q.url then [q] else []
  rejected : ∀ q r, sent.getLast? = some q → net (before + (sent.length - 1)) q = .response r →
    ¬r.LeadsAway q → ¬(200 ≤ r.status ∧ r.status < 300) →
    ∃ failure, told = .error (.rejected failure) ∧ failure.status = r.status

theorem RoundTrips.of_error {e : Error} (unmade : b.request endpoint payload = .error e) :
    RoundTrips b net before endpoint payload (.error e) [] where
  unsent := by
    intro e' nowhere
    cases (request_of_nowhere nowhere).symm.trans unmade
    exact ⟨rfl, rfl⟩
  first := by simp
  linked := .none
  few := by simp
  kinds := by simp
  single := by
    intro q other
    cases unmade.symm.trans other
  rejected := by simp

theorem Journey.kinds (journey : Journey net n before q result sent) (carried : q.payload = payload)
    (method : q.method = if payload.isSome then .post else .get) :
    ∀ p ∈ sent, p.method = .get ∧ p.payload = none ∨
      p.method = .post ∧ p.payload = payload ∧ payload.isSome = true := by
  refine journey.forall_sent ?_ ?_
  · cases payload with
    | none => exact .inl ⟨method, carried⟩
    | some body => exact .inr ⟨method, carried, rfl⟩
  · intro p next r kind moved
    cases (redirected?_eq_some moved).2 with
    | asking method payload => exact .inl ⟨method, payload⟩
    | same method payload => rwa [method, payload]

theorem RoundTrips.of_journey (made : b.request endpoint payload = .ok q)
    (journey : Journey net maxRedirections before q result sent) :
    RoundTrips b net before endpoint payload (result.bind Response.value) sent := by
  obtain ⟨url, carried, method⟩ := request_ok made
  exact {
    unsent := by
      intro e nowhere
      cases (request_of_nowhere nowhere).symm.trans made
    first := by
      intro p ahead
      rcases journey.head with empty | ⟨rest, starts⟩
      · simp [empty] at ahead
      · rw [starts] at ahead
        cases ahead
        refine ⟨url, carried, method, ?_⟩
        rw [Request.contentType?, carried]
    linked := journey.linked
    few := journey.length_le
    kinds := journey.kinds carried method
    single := by
      intro p other home
      cases made.symm.trans other
      exact journey.sent_of_home home
    rejected := by
      intro last r ends reply home failed
      refine ⟨r.failure, ?_, r.failure_status⟩
      rw [journey.result_of_last ends reply home]
      exact Response.value_of_failure failed }

theorem round_trips (b : Bridge) (net : Network) (before : Nat) (endpoint : String)
    (payload : Option Json) : RoundTrips b net before endpoint payload
      (b.call net before endpoint payload).1 (b.call net before endpoint payload).2 := by
  cases made : b.request endpoint payload with
  | error e =>
    rw [call_of_error made]
    exact .of_error made
  | ok q =>
    obtain ⟨result, journey, told⟩ := call_journey net before made
    rw [told]
    exact .of_journey made journey

/-- Where a mission is to be compiled, the worker's answer leads to another host, which answers with
success. -/
theorem redirection_sends_twice : ∃ net r body first second v, r.status = 302 ∧
    net 0 first = .response r ∧ usual.call net 0 "/mission/compile" (some body) = (.ok v, [first, second]) ∧
    first.method = .post ∧ second.method = .get ∧ second.payload.isNone = true ∧
    second.url.origin ≠ usual.base.origin := by
  let away : Response := { status := 302, location := some "http://evil.example/x", body := [] }
  let net : Network := fun before _ => .response (if before = 0 then away else { status := 200, body := [] })
  let first : Request := {
    method := .post
    url := { usual.base with path := .steps ["mission".toList, "compile".toList] }
    payload := some .null }
  let second : Request := {
    method := .get
    url := {
      scheme := "http".toList
      authority := some { host := .name "evil.example".toList }
      path := .steps ["x".toList] }
    payload := none }
  have joined : usual.endpointUrl "/mission/compile" = .ok first.url :=
    eq_ok_of_toOption (by decide +kernel)
  have made : usual.request "/mission/compile" (some .null) = .ok first := by
    rw [request, joined]
    rfl
  have led : first.url.join "http://evil.example/x" = .ok second.url :=
    eq_ok_of_toOption (by decide +kernel)
  have moved : redirected? first away = some second := by
    have aimed : redirected? first away =
        (first.url.join "http://evil.example/x").toOption.bind fun url => some { second with url } := rfl
    rw [aimed, led]
    rfl
  have arrived : send net 9 1 second = (.ok { status := 200, body := [] }, [second]) := by
    have known : isUnderstood second.url = true := by decide
    rw [send]
    simp [known, answer, net, redirected?]
  have sent : send net maxRedirections 0 first = (.ok { status := 200, body := [] }, [first, second]) := by
    have known : isUnderstood first.url = true := by decide
    have reply : net 0 first = .response away := rfl
    rw [maxRedirections, send]
    simp [known, answer, reply, moved, arrived]
  refine ⟨net, away, .null, first, second, .null, rfl, rfl, ?_, rfl, rfl, rfl, by decide⟩
  simp [call, exchange, made, sent, Except.bind, Response.value, Response.isSuccess]

end MissionWorker.Bridge
