import MissionWorker.Proofs.Bridge.Answers
import MissionWorker.Proofs.Document.Record

namespace MissionWorker.Service

open Document

variable {members : Json.Members} {issue : Issue} {issues : List Issue} {status : Nat}

namespace Issue

theorem read_object : Issue.read (.object members) = .ok issue ↔
    Json.Members.find? "message" members = some (.text issue.message) ∧
      ((∃ v, Json.Members.find? "line" members = some v ∧
          optionally word32 v = .ok issue.line) ∨
        Json.Members.find? "line" members = none ∧ issue.line = none) := by
  constructor
  · intro read
    obtain ⟨make, line, head, tail, rfl⟩ := Record.named_seq.mp (Record.read_object.mp read)
    obtain ⟨message, named, rfl⟩ := Record.named_map.mp head
    obtain ⟨v, found, text⟩ := Record.named_required.mp named
    rw [text_json.mp text] at found
    refine ⟨found, ?_⟩
    rcases Record.named_defaulted.mp tail with told | ⟨missing, rfl⟩
    · exact .inl told
    · exact .inr ⟨missing, rfl⟩
  · cases issue with
    | mk text line =>
      rintro ⟨message, ⟨v, found, told⟩ | ⟨missing, rfl⟩⟩
      · exact Record.Reads.object
          (.seq (.map (.required message (text_json.mpr rfl))) (.defaulted found told))
      · exact Record.Reads.object
          (.seq (.map (.required message (text_json.mpr rfl))) (.absent missing))

theorem line?_nat (line : UInt32) : line? (.nat line.toNat) = some line := by
  have small := line.toNat_lt_size
  have within : 0 ≤ (line.toNat : Int) ∧ (line.toNat : Int) < UInt32.size := by omega
  simp only [line?, Json.nat, within, and_self, if_true, Int.toNat_natCast, UInt32.ofNat_toNat]

theorem line?_of_optionally {v : Json} {line : Option UInt32} (read : optionally word32 v = .ok line) :
    line? v = line := by
  rcases optionally_json.mp read with ⟨rfl, rfl⟩ | ⟨_, n, word, rfl⟩
  · rfl
  · rw [word32_json.mp word, line?_nat]

theorem ofJson?_of_read (read : Issue.read (.object members) = .ok issue) :
    ofJson? (.object members) = some issue := by
  obtain ⟨message, line⟩ := read_object.mp read
  have place : (Json.Members.find? "line" members).bind line? = issue.line := by
    rcases line with ⟨v, found, told⟩ | ⟨missing, none⟩
    · rw [found]
      exact line?_of_optionally told
    · rw [missing, none]
      rfl
  simp [ofJson?, message, place, Json.text?]

theorem read_toJson (issue : Issue) : Issue.read issue.toJson = .ok issue := by
  obtain ⟨message, line⟩ := issue
  cases line with
  | none => exact read_object.mpr ⟨rfl, .inr ⟨rfl, rfl⟩⟩
  | some n =>
    refine read_object.mpr ⟨rfl, .inl ⟨.nat n.toNat, rfl, ?_⟩⟩
    exact optionally_json.mpr (.inr ⟨nofun, n, word32_json.mpr rfl, rfl⟩)

@[simp]
theorem ofJson?_toJson (issue : Issue) : ofJson? issue.toJson = some issue := by
  have read := issue.read_toJson
  unfold toJson at read ⊢
  split at read
  all_goals exact ofJson?_of_read read

@[simp]
theorem filterMap_toJson (issues : List Issue) : (issues.map toJson).filterMap ofJson? = issues := by
  induction issues with
  | nil => rfl
  | cons issue rest ih => simp [ih]

end Issue

namespace Failure

theorem account?_errors (nonempty : issues ≠ [])
    (listed : Json.Members.find? "errors" members = some (.array (issues.map Issue.toJson))) :
    account? (.object members) = some (summary issues, issues) := by
  have usable : ofErrors? (issues.map Issue.toJson) = some (summary issues, issues) := by
    rw [ofErrors?, Issue.filterMap_toJson]
    cases issues with
    | nil => exact absurd rfl nonempty
    | cons issue rest => rfl
  simp [account?, Json.get?, listed, Json.items?, usable]

/-- Where one problem says as much as the message, it is also what is displayed of it. -/
theorem render_of_errors {failure : Failure} (nonempty : failure.errors ≠ []) :
    failure.render = "\n".intercalate (failure.errors.map Issue.display) := by
  unfold render
  split
  · exact absurd ‹_› nonempty
  · rename_i only alone
    have joined : "\n".intercalate [only.display] = only.display := rfl
    rw [alone, List.map_cons, List.map_nil, joined]
    split
    · rename_i said
      obtain ⟨unplaced, same⟩ := Bool.and_eq_true_iff.mp said
      rw [Issue.display, Option.isNone_iff_eq_none.mp unplaced, beq_iff_eq.mp same]
    · rfl
  · rfl

end Failure

/-- What becomes of a list of problems, as a member of an answer with that status. -/
structure Unaltered (members : Json.Members) (issues : List Issue) (status : Nat) : Prop where
  errors : (Failure.ofJson status (.object members)).errors = issues
  written : (Json.object members).get? "errors" =
    some (.array ((Failure.ofJson status (.object members)).errors.map Issue.toJson))
  code : (Failure.ofJson status (.object members)).status = status
  body : (Failure.ofJson status (.object members)).body = some (.object members)
  render : (Failure.ofJson status (.object members)).render =
    "\n".intercalate (issues.map Issue.display)
  lenient : ∀ {members : Json.Members} {issue : Issue}, Issue.read (.object members) = .ok issue →
    Issue.ofJson? (.object members) = some issue
  told : ∀ {b : Bridge} {net : Bridge.Network} {before : Nat} {endpoint : String}
    {payload : Option Json} {r : Bridge.Response}, b.Delivers net before endpoint payload r →
    r.status = status → r.delivery = .whole →
    Json.parse? (Text.Utf8.decodeLossy r.body) = some (.object members) →
    ¬(200 ≤ status ∧ status < 300) → ¬(500 ≤ status ∧ status < 600) →
    ∀ {o : Supervisor.Options} {s : Supervisor.State} {i generation : Nat} {c : Supervisor.Caller},
      s.callers[i]? = some c → c.point = .calling generation →
      ∃ e : Supervisor.RequestError, e.issues = issues ∧
        s.step o (.caller i (.callReturned (b.call net before endpoint payload).1)) =
          some (s.setCaller i { c with point := .returned (.error e) }, [])

theorem errors_unaltered (status : Nat) (nonempty : issues ≠ [])
    (listed : Json.Members.find? "errors" members = some (.array (issues.map Issue.toJson))) :
    Unaltered members issues status := by
  have read := Failure.account?_errors nonempty listed
  have failure : Failure.ofJson status (.object members) = {
      status, message := Failure.summary issues, errors := issues, body := some (.object members) } := by
    simp [Failure.ofJson, read]
  exact {
    errors := by rw [failure]
    written := by
      rw [failure]
      exact listed
    code := by rw [failure]
    body := by rw [failure]
    render := by
      rw [failure]
      exact Failure.render_of_errors nonempty
    lenient := Issue.ofJson?_of_read
    told := by
      intro b net before endpoint payload r delivered same whole parsed other fatal o s i generation c
        here calling
      have answer : (b.call net before endpoint payload).1 = .error (.rejected r.failure) := by
        rw [← same] at other
        exact (delivered.exchange).trans (Bridge.Response.value_of_failure other)
      have told : r.failure = Failure.ofJson status (.object members) := by
        rw [Bridge.Response.failure, whole, ← same]
        simp [Failure.ofText, parsed]
      have cause : (Bridge.Error.rejected r.failure).recovery = .fatal := by
        simp [Bridge.Error.recovery, r.failure_status, same, Recovery.Class.ofStatus, fatal]
      have domain : Supervisor.RequestError.ofCall (.rejected r.failure) = .domain r.failure := by
        simp [Supervisor.RequestError.ofCall, Bridge.Error.isTransient, cause]
      have surfaces : o.recovery.decide (Bridge.Error.rejected r.failure).recovery c.used = .surface := by
        rw [cause]
        rfl
      refine ⟨.domain r.failure, ?_, ?_⟩
      · rw [told, failure]
        rfl
      · rw [answer, Supervisor.State.step_answer here calling,
          Supervisor.State.receiveAnswer_of_surface surfaces, domain] }

/-- A message beside the list makes no difference, and the greatest line is kept. -/
theorem errors_unaltered_beside_message : ∃ members issues,
    issues = [{ message := "Unknown token", line := some 4294967295 }, { message := "No waypoint" }] ∧
    Json.Members.find? "message" members = some (.text "rejected") ∧
    Json.Members.find? "errors" members = some (.array (issues.map Issue.toJson)) ∧
    Unaltered members issues 422 := by
  let issues : List Issue :=
    [{ message := "Unknown token", line := some 4294967295 }, { message := "No waypoint" }]
  let members : Json.Members :=
    [("errors", .array (issues.map Issue.toJson)), ("message", .text "rejected")]
  exact ⟨members, issues, rfl, rfl, rfl, errors_unaltered 422 (by simp [issues]) rfl⟩

end MissionWorker.Service
