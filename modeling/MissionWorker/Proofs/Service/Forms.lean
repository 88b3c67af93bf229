import MissionWorker.Proofs.Document.Shape
import MissionWorker.Service.Boundary

namespace MissionWorker.Service

open Document Record

namespace Health

def shape : Shape := .record (needed "status" .plain)

theorem follows : Follows read shape := by
  apply Follows.record ?_ (by decide)
  exact .map (.required (.plain _) nofun)

theorem read_toJson (h : Health) : read h.toJson = .ok h :=
  Reads.object (.map (.required rfl rfl))

end Health

namespace BoundaryInfo

def shape : Shape := .record (needed "source" .plain ++ needed "bounds" .plain)

theorem follows : Follows read shape := by
  apply Follows.record ?_ (by decide)
  exact .seq (.map (.required (.plain _) nofun)) (.required (.plain _) nofun)

def Finite (b : BoundaryInfo) : Prop := ∀ x ∈ b.bounds, x.isFinite = true

theorem read_toJson {b : BoundaryInfo} (finite : b.Finite) : read b.toJson = .ok b := by
  cases b with
  | mk source bounds =>
    have numbers : Json.readList Json.readReal (.array (bounds.map .real)) = .ok bounds :=
      readList_json fun x member => real_json (finite x member)
    exact Reads.object (.seq (.map (.required rfl rfl)) (.required rfl numbers))

end BoundaryInfo

namespace GridFiles

def shape : Shape := .record (needed "grid_geojson" .plain ++ needed "grid_centroids" .plain)

theorem follows : Follows read shape := by
  apply Follows.record ?_ (by decide)
  exact .seq (.map (.required (.plain _) nofun)) (.required (.plain _) nofun)

theorem read_toJson (f : GridFiles) : read f.toJson = .ok f := by
  cases f with
  | mk gridGeojson gridCentroids =>
    exact Reads.object (.seq (.map (.required rfl rfl)) (.required rfl rfl))

end GridFiles

namespace GridOrigin

def shape : Shape := .record (needed "x" .plain ++ needed "y" .plain)

theorem follows : Follows read shape := by
  apply Follows.record ?_ (by decide)
  exact .seq (.map (.required (.plain _) nofun)) (.required (.plain _) nofun)

structure Finite (o : GridOrigin) : Prop where
  x : o.x.isFinite = true
  y : o.y.isFinite = true

theorem read_toJson {o : GridOrigin} (finite : o.Finite) : read o.toJson = .ok o := by
  cases o with
  | mk x y =>
    exact Reads.object <|
      .seq (.map (.required rfl (real_json finite.x))) (.required rfl (real_json finite.y))

end GridOrigin

namespace Bounds

structure Finite (b : Bounds) : Prop where
  minX : b.minX.isFinite = true
  minY : b.minY.isFinite = true
  maxX : b.maxX.isFinite = true
  maxY : b.maxY.isFinite = true

theorem read_toJson {b : Bounds} (finite : b.Finite) : read b.toJson = .ok b := by
  have opened : read b.toJson = (do
      let minX ← Json.readReal (.real b.minX)
      let minY ← Json.readReal (.real b.minY)
      let maxX ← Json.readReal (.real b.maxX)
      let maxY ← Json.readReal (.real b.maxY)
      return { minX, minY, maxX, maxY }) := rfl
  rw [opened, real_json finite.minX, real_json finite.minY, real_json finite.maxX,
    real_json finite.maxY]
  rfl

end Bounds

namespace GridSummary

def shape : Shape := .record <|
  needed "cell_size" .plain ++ needed "cells" .plain ++ needed "centroids" .plain ++
    needed "bounds" .plain ++ needed "grid_lines" .any ++ needed "boundary" .any ++
    needed "files" GridFiles.shape ++ needed "origin" GridOrigin.shape

theorem follows : Follows read shape := by
  apply Follows.record ?_ (by decide)
  refine .seq (.seq (.seq (.seq (.seq (.seq (.seq (.map ?size) ?cells) ?centroids) ?bounds) ?lines)
    ?boundary) ?files) ?origin
  case size | cells | centroids | bounds => exact .required (.plain _) nofun
  case lines | boundary => exact .required (.any _) fun passed => absurd rfl passed
  case files => exact .required GridFiles.follows nofun
  case origin => exact .required GridOrigin.follows nofun

structure Finite (g : GridSummary) : Prop where
  cellSize : g.cellSize.isFinite = true
  bounds : g.bounds.Finite
  origin : g.origin.Finite

theorem read_toJson {g : GridSummary} (finite : g.Finite) : read g.toJson = .ok g := by
  cases g with
  | mk cellSize cells centroids bounds gridLines boundary files origin =>
    apply Reads.object
    refine .seq (.seq (.seq (.seq (.seq (.seq (.seq (.map ?size) ?cells) ?centroids) ?bounds) ?lines)
      ?boundary) ?files) ?origin
    case size => exact .required rfl (real_json finite.cellSize)
    case cells | centroids => exact .required rfl (word64_json.mpr rfl)
    case bounds => exact .required rfl (Bounds.read_toJson finite.bounds)
    case lines | boundary => exact .required rfl rfl
    case files => exact .required rfl files.read_toJson
    case origin => exact .required rfl (GridOrigin.read_toJson finite.origin)

end GridSummary

namespace MissionInfo

def shape : Shape := .record (needed "name" .plain ++ spare "speed" .null .plain)

theorem follows : Follows read shape := by
  apply Follows.record ?_ (by decide)
  exact .seq (.map (.required (.plain _) nofun)) (.defaulted (.plain _) rfl)

def Finite (m : MissionInfo) : Prop := ∀ x ∈ m.speed, x.isFinite = true

theorem read_toJson {m : MissionInfo} (finite : m.Finite) : read m.toJson = .ok m := by
  cases m with
  | mk name speed =>
    have paced : optionally Json.readReal (.orNull .real speed) = .ok speed := by
      apply orNull_json
      · intro x given
        exact real_json (finite x given)
      · intro x given
        rw [real_of_finite (finite x given)]
        nofun
    exact Reads.object (.seq (.map (.required rfl rfl)) (.defaulted rfl paced))

end MissionInfo

namespace MissionTotals

def shape : Shape :=
  .record (needed "distance_m" .plain ++ needed "step_m" .plain ++ needed "waypoints" .plain)

theorem follows : Follows read shape := by
  apply Follows.record ?_ (by decide)
  refine .seq (.seq (.map ?distance) ?step) ?waypoints
  case distance | step | waypoints => exact .required (.plain _) nofun

structure Finite (t : MissionTotals) : Prop where
  distance : t.distance.isFinite = true
  step : t.step.isFinite = true

theorem read_toJson {t : MissionTotals} (finite : t.Finite) : read t.toJson = .ok t := by
  cases t with
  | mk distance step waypoints =>
    apply Reads.object
    refine .seq (.seq (.map ?distance) ?step) ?waypoints
    case distance => exact .required rfl (real_json finite.distance)
    case step => exact .required rfl (real_json finite.step)
    case waypoints => exact .required rfl (word64_json.mpr rfl)

end MissionTotals

namespace Waypoint

def shape : Shape := .record <|
  needed "seq" .plain ++ needed "x" .plain ++ needed "y" .plain ++ needed "z" .plain ++
    needed "lat" .plain ++ needed "lon" .plain ++ spare "line" .null .plain ++
    needed "in_florida" .plain ++ needed "snapped" .plain

theorem follows : Follows read shape := by
  apply Follows.record ?_ (by decide)
  refine .seq (.seq (.seq (.seq (.seq (.seq (.seq (.seq (.map ?seq) ?x) ?y) ?z) ?lat) ?lon) ?line)
    ?florida) ?snapped
  case seq | x | y | z | lat | lon | florida | snapped => exact .required (.plain _) nofun
  case line => exact .defaulted (.plain _) rfl

structure Finite (w : Waypoint) : Prop where
  x : w.x.isFinite = true
  y : w.y.isFinite = true
  z : w.z.isFinite = true
  lat : w.lat.isFinite = true
  lon : w.lon.isFinite = true

theorem read_toJson {w : Waypoint} (finite : w.Finite) : read w.toJson = .ok w := by
  cases w with
  | mk seq x y z lat lon line inFlorida snapped =>
    have numbered : optionally word32 (Json.orNull (fun line => .nat line.toNat) line) = .ok line :=
      orNull_json (fun _ _ => word32_json.mpr rfl) fun _ _ => nofun
    apply Reads.object
    refine .seq (.seq (.seq (.seq (.seq (.seq (.seq (.seq (.map ?seq) ?x) ?y) ?z) ?lat) ?lon) ?line)
      ?florida) ?snapped
    case seq => exact .required rfl (word64_json.mpr rfl)
    case x => exact .required rfl (real_json finite.x)
    case y => exact .required rfl (real_json finite.y)
    case z => exact .required rfl (real_json finite.z)
    case lat => exact .required rfl (real_json finite.lat)
    case lon => exact .required rfl (real_json finite.lon)
    case line => exact .defaulted rfl numbered
    case florida | snapped => exact .required rfl rfl

end Waypoint

namespace Dwell

def shape : Shape := .record (needed "index" .plain ++ needed "duration" .plain)

theorem follows : Follows read shape := by
  apply Follows.record ?_ (by decide)
  exact .seq (.map (.required (.plain _) nofun)) (.required (.plain _) nofun)

def Finite (d : Dwell) : Prop := d.duration.isFinite = true

theorem read_toJson {d : Dwell} (finite : d.Finite) : read d.toJson = .ok d := by
  cases d with
  | mk index duration =>
    exact Reads.object <|
      .seq (.map (.required rfl (word64_json.mpr rfl))) (.required rfl (real_json finite))

end Dwell

namespace CompiledMission

def shape : Shape := .record <|
  needed "mission" MissionInfo.shape ++ needed "totals" MissionTotals.shape ++
    needed "waypoints" (.list Waypoint.shape) ++ spare "exports" (.object []) .plain ++
    spare "dwell_events" (.array []) (.list Dwell.shape) ++ spare "surface_index" .null .plain

theorem follows : Follows read shape := by
  apply Follows.record ?_ (by decide)
  refine .seq (.seq (.seq (.seq (.seq (.map ?mission) ?totals) ?waypoints) ?exports) ?dwells) ?index
  case mission => exact .required MissionInfo.follows nofun
  case totals => exact .required MissionTotals.follows nofun
  case waypoints => exact .required (.list Waypoint.follows) nofun
  case exports | index => exact .defaulted (.plain _) rfl
  case dwells => exact .defaulted (.list Dwell.follows) rfl

structure Finite (m : CompiledMission) : Prop where
  mission : m.mission.Finite
  totals : m.totals.Finite
  waypoints : ∀ w ∈ m.waypoints, w.Finite
  dwells : ∀ d ∈ m.dwells, d.Finite

theorem read_toJson {m : CompiledMission} (finite : m.Finite) : read m.toJson = .ok m := by
  cases m with
  | mk mission totals waypoints exports dwells surfaceIndex =>
    have points : Json.readList Waypoint.read (.array (waypoints.map Waypoint.toJson)) = .ok waypoints :=
      readList_json fun w member => Waypoint.read_toJson (finite.waypoints w member)
    have stays : Json.readList Dwell.read (.array (dwells.map Dwell.toJson)) = .ok dwells :=
      readList_json fun d member => Dwell.read_toJson (finite.dwells d member)
    have surface : optionally word64 (Json.orNull (fun index => .nat index.toNat) surfaceIndex) =
        .ok surfaceIndex :=
      orNull_json (fun _ _ => word64_json.mpr rfl) fun _ _ => nofun
    apply Reads.object
    refine .seq (.seq (.seq (.seq (.seq (.map ?mission) ?totals) ?waypoints) ?exports) ?dwells) ?index
    case mission => exact .required rfl (MissionInfo.read_toJson finite.mission)
    case totals => exact .required rfl (MissionTotals.read_toJson finite.totals)
    case waypoints => exact .required rfl points
    case exports => exact .defaulted rfl (readTable_json fun _ _ => rfl)
    case dwells => exact .defaulted rfl stays
    case index => exact .defaulted rfl surface

theorem within_waypoint {change : Shape.Fields → Json.Members → Json.Members → Prop}
    {members : Json.Members} {v w : Json} (before after : List Json)
    (found : Json.Members.find? "waypoints" members = some (.array (before ++ v :: after)))
    (inside : Within change Waypoint.shape v w) :
    Within change shape (.object members)
      (.object (members.insert "waypoints" (.array (before ++ w :: after)))) :=
  .member (f := ⟨"waypoints", none, .list Waypoint.shape⟩) (by simp [needed, spare]) found
    (.item before after inside)

end CompiledMission

theorem answers_round_trip :
    (∀ h : Health, RoundTrips Health.read Health.shape h.toJson h) ∧
    (∀ g : GridSummary, g.Finite → RoundTrips GridSummary.read GridSummary.shape g.toJson g) ∧
    (∀ m : CompiledMission, m.Finite →
      RoundTrips CompiledMission.read CompiledMission.shape m.toJson m) ∧
    ∀ b : BoundaryInfo, b.Finite → RoundTrips BoundaryInfo.read BoundaryInfo.shape b.toJson b := by
  refine ⟨?health, ?grid, ?mission, ?boundary⟩
  case health => exact fun h => Health.follows.roundTrips h.read_toJson
  case grid => exact fun g finite => GridSummary.follows.roundTrips (GridSummary.read_toJson finite)
  case mission =>
    exact fun m finite => CompiledMission.follows.roundTrips (CompiledMission.read_toJson finite)
  case boundary =>
    exact fun b finite => BoundaryInfo.follows.roundTrips (BoundaryInfo.read_toJson finite)

/-- A mission with one waypoint that comes from no line: the waypoint can do without its line, and not
without its number. -/
theorem answers_round_trip_at_waypoint : ∃ (m : CompiledMission) (v : Json), m.Finite ∧
    Within Harmless CompiledMission.shape m.toJson v ∧ CompiledMission.read v = .ok m ∧
    ∃ w, Within Harmful CompiledMission.shape v w ∧ ∃ fault, CompiledMission.read w = .error fault := by
  let point : Waypoint := {
    seq := 1, x := 0.5, y := -2, z := 0, lat := 27.5, lon := -82, line := none
    inFlorida := true, snapped := false }
  let m : CompiledMission := {
    mission := { name := "survey", speed := none }
    totals := { distance := 0, step := 5, waypoints := 1 }
    waypoints := [point], exports := [("kml", "survey.kml")], dwells := [], surfaceIndex := none }
  have located : point.Finite := by constructor <;> decide +kernel
  have finite : m.Finite := {
    mission := nofun
    totals := by constructor <;> decide +kernel
    waypoints := by simpa [m] using located
    dwells := nofun }
  have lineless : Within Harmless CompiledMission.shape m.toJson _ :=
    CompiledMission.within_waypoint [] [] rfl <|
      .here (.drop (f := ⟨"line", some .null, .plain⟩) (by simp [needed, spare]) rfl rfl)
  have numberless (numbered rest : Json.Members) : ∃ w, Within Harmful CompiledMission.shape
      (.object (rest.insert "waypoints" (.array [.object numbered]))) w :=
    ⟨_, CompiledMission.within_waypoint [] [] Json.Members.find?_insert_self <|
      .here (.drop (f := ⟨"seq", none, .plain⟩) (by simp [needed, spare]) rfl)⟩
  have answer := answers_round_trip.2.2.1 m finite
  refine ⟨m, _, finite, lineless, answer.keeps _ (.single lineless), ?_⟩
  exact (numberless _ _).imp fun w harm => ⟨harm, answer.breaks _ w (.single lineless) harm⟩

end MissionWorker.Service
