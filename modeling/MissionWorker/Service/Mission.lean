import MissionWorker.Service.Grid
import MissionWorker.Text.Blank

namespace MissionWorker.Service

open Document

def defaultStep : Float := 5

structure MissionRequest where
  missionText : String
  step : Float := defaultStep
  snapToGrid : Bool := false
  gridCellSize : Option Float := none

namespace MissionRequest

def ofText (missionText : String) : MissionRequest := { missionText }

def withStep (r : MissionRequest) (step : Float) : MissionRequest := { r with step }

/-- The request with waypoints moved to the centroids of a grid. -/
def snapped (r : MissionRequest) (cellSize : Float) : MissionRequest :=
  { r with snapToGrid := true, gridCellSize := some cellSize }

def toJson (r : MissionRequest) : Json :=
  .object <|
    (match r.gridCellSize with
      | some size => [("grid_cell_size", .real size)]
      | none => []) ++ [
    ("mission_text", .text r.missionText),
    ("snap_to_grid", .bool r.snapToGrid),
    ("step", .real r.step)]

def read : Json → Except Fault MissionRequest :=
  Record.read "MissionCompileRequest" <|
    MissionRequest.mk <$> .required "mission_text" Source.text
      <*> .required "step" Json.readReal
      <*> .required "snap_to_grid" Source.flag
      <*> .nullable "grid_cell_size" Json.readReal

def check (r : MissionRequest) : Except Failure Unit := do
  if Text.isBlankText r.missionText then throw (.rejectedLocally "mission_text is required")
  if !isPositive r.step then throw (.rejectedLocally "Step must be positive")
  if let some size := r.gridCellSize then
    if !isPositive size then throw (.rejectedLocally "Cell size must be positive")

end MissionRequest

structure MissionInfo where
  name : String
  speed : Option Float

def MissionInfo.toJson (m : MissionInfo) : Json :=
  .object [("name", .text m.name), ("speed", .orNull .real m.speed)]

def MissionInfo.read : Json → Except Fault MissionInfo :=
  Record.read "MissionInfo" <|
    MissionInfo.mk <$> .required "name" Source.text
      <*> .defaulted "speed" none (optionally Json.readReal)

structure MissionTotals where
  distance : Float
  step : Float
  waypoints : UInt64

def MissionTotals.toJson (t : MissionTotals) : Json :=
  .object [
    ("distance_m", .real t.distance),
    ("step_m", .real t.step),
    ("waypoints", .nat t.waypoints.toNat)]

def MissionTotals.read : Json → Except Fault MissionTotals :=
  Record.read "MissionTotals" <|
    MissionTotals.mk <$> .required "distance_m" Json.readReal
      <*> .required "step_m" Json.readReal
      <*> .required "waypoints" word64

structure Waypoint where
  seq : UInt64
  x : Float
  y : Float
  z : Float
  lat : Float
  lon : Float
  line : Option UInt32
  inFlorida : Bool
  snapped : Bool

def Waypoint.toJson (w : Waypoint) : Json :=
  .object [
    ("in_florida", .bool w.inFlorida),
    ("lat", .real w.lat),
    ("line", .orNull (fun line => .nat line.toNat) w.line),
    ("lon", .real w.lon),
    ("seq", .nat w.seq.toNat),
    ("snapped", .bool w.snapped),
    ("x", .real w.x),
    ("y", .real w.y),
    ("z", .real w.z)]

def Waypoint.read : Json → Except Fault Waypoint :=
  Record.read "Waypoint" <|
    Waypoint.mk <$> .required "seq" word64
      <*> .required "x" Json.readReal
      <*> .required "y" Json.readReal
      <*> .required "z" Json.readReal
      <*> .required "lat" Json.readReal
      <*> .required "lon" Json.readReal
      <*> .defaulted "line" none (optionally word32)
      <*> .required "in_florida" Source.flag
      <*> .required "snapped" Source.flag

structure Dwell where
  index : UInt64
  duration : Float

def Dwell.toJson (d : Dwell) : Json :=
  .object [("duration", .real d.duration), ("index", .nat d.index.toNat)]

def Dwell.read : Json → Except Fault Dwell :=
  Record.read "DwellEvent" <|
    Dwell.mk <$> .required "index" word64 <*> .required "duration" Json.readReal

structure CompiledMission where
  mission : MissionInfo
  totals : MissionTotals
  waypoints : List Waypoint
  exports : List (String × String)
  dwells : List Dwell
  surfaceIndex : Option UInt64

def CompiledMission.toJson (m : CompiledMission) : Json :=
  .object [
    ("dwell_events", .array (m.dwells.map Dwell.toJson)),
    ("exports", .object (m.exports.map fun (kind, path) => (kind, .text path))),
    ("mission", m.mission.toJson),
    ("surface_index", .orNull (fun index => .nat index.toNat) m.surfaceIndex),
    ("totals", m.totals.toJson),
    ("waypoints", .array (m.waypoints.map Waypoint.toJson))]

def CompiledMission.read : Json → Except Fault CompiledMission :=
  Record.read "CompiledMission" <|
    CompiledMission.mk <$> .required "mission" MissionInfo.read
      <*> .required "totals" MissionTotals.read
      <*> .required "waypoints" (Json.readList Waypoint.read)
      <*> .defaulted "exports" [] (Json.readTable Source.text)
      <*> .defaulted "dwell_events" [] (Json.readList Dwell.read)
      <*> .defaulted "surface_index" none (optionally word64)

end MissionWorker.Service
