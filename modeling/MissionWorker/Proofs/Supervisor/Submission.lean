import MissionWorker.Proofs.Document.Record
import MissionWorker.Proofs.Supervisor.Retries
import MissionWorker.Supervisor.Scenario

namespace MissionWorker.Service

open Document

theorem isFinite_of_isPositive {x : Float} (positive : isPositive x = true) : x.isFinite = true := by
  rw [isPositive, Bool.and_eq_true] at positive
  exact positive.1

namespace GridRequest

variable {r : GridRequest}

def Finite (r : GridRequest) : Prop := r.cellSize.isFinite = true

theorem check_cases (r : GridRequest) :
    r.check = .ok () ∧ r.Finite ∨ ∃ message, r.check = .error (.rejectedLocally message) := by
  unfold check
  split
  · rename_i positive
    exact .inl ⟨rfl, isFinite_of_isPositive positive⟩
  · exact .inr ⟨_, rfl⟩

theorem finite_of_check (fine : r.check = .ok ()) : r.Finite := by
  rcases r.check_cases with ⟨_, finite⟩ | ⟨message, wrong⟩
  · exact finite
  · cases fine.symm.trans wrong

theorem get?_cellSize (finite : r.Finite) :
    r.toJson.get? "cell_size" = some (.number (.float r.cellSize)) :=
  congrArg some (real_of_finite finite)

theorem read_toJson (finite : r.Finite) : read r.toJson = .ok r :=
  Record.Reads.object (.map (.required rfl (real_json finite)))

end GridRequest

namespace MissionRequest

variable {r : MissionRequest}

structure Finite (r : MissionRequest) : Prop where
  step : r.step.isFinite = true
  gridCellSize : ∀ x ∈ r.gridCellSize, x.isFinite = true

theorem check_cases (r : MissionRequest) :
    r.check = .ok () ∧ r.Finite ∨ ∃ message, r.check = .error (.rejectedLocally message) := by
  cases r with
  | mk missionText step snapToGrid gridCellSize =>
    unfold check
    cases Text.isBlankText missionText with
    | true => exact .inr ⟨_, rfl⟩
    | false =>
      cases paced : isPositive step with
      | false => exact .inr ⟨_, rfl⟩
      | true =>
        have finite : step.isFinite = true := isFinite_of_isPositive paced
        cases gridCellSize with
        | none => exact .inl ⟨rfl, finite, nofun⟩
        | some size =>
          cases sized : isPositive size with
          | false => exact .inr ⟨_, by simp only [sized]; rfl⟩
          | true =>
            refine .inl ⟨by simp only [sized]; rfl, finite, ?_⟩
            rintro x ⟨⟩
            exact isFinite_of_isPositive sized

theorem finite_of_check (fine : r.check = .ok ()) : r.Finite := by
  rcases r.check_cases with ⟨_, finite⟩ | ⟨message, wrong⟩
  · exact finite
  · cases fine.symm.trans wrong

theorem get?_step (finite : r.Finite) : r.toJson.get? "step" = some (.number (.float r.step)) := by
  cases r with
  | mk missionText step snapToGrid gridCellSize =>
    cases gridCellSize with
    | none | some => exact congrArg some (real_of_finite finite.step)

theorem get?_gridCellSize (finite : r.Finite) :
    r.toJson.get? "grid_cell_size" = r.gridCellSize.map fun x => .number (.float x) := by
  cases r with
  | mk missionText step snapToGrid gridCellSize =>
    cases gridCellSize with
    | none => rfl
    | some x => exact congrArg some (real_of_finite (finite.gridCellSize x rfl))

theorem read_toJson (finite : r.Finite) : read r.toJson = .ok r := by
  cases r with
  | mk missionText step snapToGrid gridCellSize =>
    cases gridCellSize with
    | none =>
      apply Record.Reads.object
      refine .seq (.seq (.seq (.map ?text) ?step) ?snap) ?size
      case text => exact .required rfl rfl
      case step => exact .required rfl (real_json finite.step)
      case snap => exact .required rfl rfl
      case size => exact .without rfl
    | some x =>
      have number : optionally Json.readReal (.real x) = .ok (some x) := by
        rw [real_of_finite (finite.gridCellSize x rfl)]
        rfl
      apply Record.Reads.object
      refine .seq (.seq (.seq (.map ?text) ?step) ?snap) ?size
      case text => exact .required rfl rfl
      case step => exact .required rfl (real_json finite.step)
      case snap => exact .required rfl rfl
      case size => exact .nullable rfl number

inductive Built : MissionRequest → Prop where
  | ofText (missionText : String) : Built (.ofText missionText)
  | withStep {r : MissionRequest} (built : Built r) (step : Float) : Built (r.withStep step)
  | snapped {r : MissionRequest} (built : Built r) (cellSize : Float) : Built (r.snapped cellSize)

theorem Built.snaps (built : Built r) : r.snapToGrid = r.gridCellSize.isSome := by
  induction built with
  | ofText => rfl
  | withStep _ _ ih => exact ih
  | snapped => rfl

end MissionRequest
end MissionWorker.Service

namespace MissionWorker.Supervisor

open Document Service Scenario

variable {o : Options} {steps : List Taken} {s : State} {task : Task} {endpoint : String}
  {payload : Json}

structure TurnedDown (task : Task) (failure : Failure) : Prop where
  single : ∃ issue, failure.errors = [issue]
  unbegun : ∀ (script : Script) (w : World),
    Stage.begin script w task = ((w.now, .error (.error (.domain failure))), w)
  answered : ∀ (script : Script) (g : Stage), g.perform script (.run task) =
    (.result task (.error (.domain failure)), (g.perform script .look).2)

structure Dispatches (task : Task) (endpoint : String) (payload : Json) : Prop where
  job : task.job = .ok (.request endpoint (some payload))
  begun : ∀ (script : Script) (w : World), Stage.begin script w task =
    ((w.now, .ok w.state.callers.length), w.take script (.enter (.request endpoint (some payload))))
  calls : ∀ {o : Options} {steps : List Taken} {s : State} {i : Nat} {c : Caller}, Trail o steps s →
    s.callers[i]? = some c → task.job = .ok c.job →
    ∀ call ∈ (steps.flatMap Taken.asked).filterMap (Event.call? i), call = (endpoint, some payload)

theorem TurnedDown.of_job {message : String}
    (none : task.job = .error (.rejectedLocally message)) :
    TurnedDown task (.rejectedLocally message) where
  single := ⟨_, rfl⟩
  unbegun script w := by rw [Stage.begin, none]
  answered script g := by simp only [Stage.perform, Stage.begin, none]

theorem Dispatches.of_job (job : task.job = .ok (.request endpoint (some payload))) :
    Dispatches task endpoint payload where
  job := job
  begun script w := by rw [Stage.begin, job]
  calls := by
    intro o steps s i c trail here wanted call member
    have request : c.job = .request endpoint (some payload) := by
      rw [job] at wanted
      exact (Except.ok.inj wanted).symm
    obtain ⟨rounds, last, progress⟩ := trail.progress here request
    rw [trail.dispatched i] at member
    exact progress.same call member

/-- A request is turned down, or every call for it carries what the same request is read from. -/
structure Lossless {α : Type} (task : Task) (endpoint : String) (check : Except Failure Unit)
    (payload : Json) (read : Json → Except Fault α) (r : α) : Prop where
  rejected : ∀ failure, check = .error failure → TurnedDown task failure
  accepted : check = .ok () → Dispatches task endpoint payload ∧ read payload = .ok r

theorem Lossless.of_job {α : Type} {check : Except Failure Unit} {read : Json → Except Fault α} {r : α}
    (job : task.job = check.map fun _ => .request endpoint (some payload))
    (cases : check = .ok () ∧ read payload = .ok r ∨
      ∃ message, check = .error (.rejectedLocally message)) :
    Lossless task endpoint check payload read r := by
  rcases cases with ⟨fine, back⟩ | ⟨message, wrong⟩
  · have request : task.job = .ok (.request endpoint (some payload)) := by rw [job, fine]; rfl
    exact {
      rejected := fun failure turned => nomatch fine.symm.trans turned
      accepted := fun _ => ⟨.of_job request, back⟩ }
  · have none : task.job = .error (.rejectedLocally message) := by rw [job, wrong]; rfl
    exact {
      rejected := by
        intro failure turned
        cases wrong.symm.trans turned
        exact .of_job none
      accepted := fun fine => nomatch wrong.symm.trans fine }

theorem GridRequest.lossless (r : GridRequest) :
    Lossless (.grid r) Endpoint.gridBuild r.check r.toJson GridRequest.read r := by
  apply Lossless.of_job rfl
  exact r.check_cases.imp_left fun ⟨fine, finite⟩ => ⟨fine, GridRequest.read_toJson finite⟩

theorem MissionRequest.lossless (r : MissionRequest) :
    Lossless (.compile r) Endpoint.missionCompile r.check r.toJson MissionRequest.read r := by
  apply Lossless.of_job rfl
  exact r.check_cases.imp_left fun ⟨fine, finite⟩ => ⟨fine, MissionRequest.read_toJson finite⟩

theorem requests_lossless :
    (∀ r : GridRequest, Lossless (.grid r) Endpoint.gridBuild r.check r.toJson GridRequest.read r ∧
      (r.check = .ok () → r.toJson.get? "cell_size" = some (.number (.float r.cellSize)))) ∧
    (∀ r : MissionRequest,
      Lossless (.compile r) Endpoint.missionCompile r.check r.toJson MissionRequest.read r ∧
      (r.check = .ok () → r.toJson.get? "step" = some (.number (.float r.step)) ∧
        r.toJson.get? "grid_cell_size" = r.gridCellSize.map fun x => .number (.float x))) ∧
    ∀ r : MissionRequest, r.Built → (r.snapToGrid = true ↔ r.gridCellSize.isSome = true) := by
  refine ⟨?grid, ?mission, ?built⟩
  case grid =>
    intro r
    refine ⟨GridRequest.lossless r, ?_⟩
    intro fine
    exact r.get?_cellSize (GridRequest.finite_of_check fine)
  case mission =>
    intro r
    refine ⟨MissionRequest.lossless r, ?_⟩
    intro fine
    have finite : r.Finite := MissionRequest.finite_of_check fine
    exact ⟨MissionRequest.get?_step finite, MissionRequest.get?_gridCellSize finite⟩
  case built =>
    intro r built
    rw [built.snaps]

/-- The least cell size that there is goes out as it is, and none that is no number. -/
theorem requests_lossless_at_extremes :
    (∃ r : MissionRequest, r.Built ∧ r.check = .ok () ∧ r.gridCellSize = some 5e-324 ∧
      MissionRequest.read r.toJson = .ok r) ∧
    ∃ failure, TurnedDown (.grid { cellSize := 0 / 0 }) failure := by
  let r : MissionRequest := ((MissionRequest.ofText "GO").withStep 0.5).snapped 5e-324
  have least : isPositive 5e-324 = true := by decide +kernel
  have fine : r.check = .ok () := by
    simp only [r, MissionRequest.check, MissionRequest.snapped, least]
    rfl
  have built : r.Built := ((MissionRequest.Built.ofText "GO").withStep 0.5).snapped 5e-324
  obtain ⟨grid, mission, _⟩ := requests_lossless
  have wrong : (GridRequest.mk (0 / 0)).check = .error (.rejectedLocally "Cell size must be positive") :=
    rfl
  exact ⟨⟨r, built, fine, rfl, ((mission r).1.accepted fine).2⟩, _, (grid _).1.rejected _ wrong⟩

end MissionWorker.Supervisor
