import MissionWorker.Service.Failure

namespace MissionWorker.Service

open Document

/-- Whether a number is a length that the worker works with. -/
def isPositive (x : Float) : Bool := x.isFinite && x > 0

def defaultCellSize : Float := 1000

structure GridRequest where
  cellSize : Float := defaultCellSize

namespace GridRequest

def toJson (r : GridRequest) : Json := .object [("cell_size", .real r.cellSize)]

def read : Json → Except Fault GridRequest :=
  Record.read "GridBuildRequest" <| GridRequest.mk <$> .required "cell_size" Json.readReal

def check (r : GridRequest) : Except Failure Unit :=
  if isPositive r.cellSize then .ok ()
  else .error (.rejectedLocally "Cell size must be positive")

end GridRequest

structure GridFiles where
  gridGeojson : String
  gridCentroids : String

def GridFiles.toJson (f : GridFiles) : Json :=
  .object [("grid_centroids", .text f.gridCentroids), ("grid_geojson", .text f.gridGeojson)]

def GridFiles.read : Json → Except Fault GridFiles :=
  Record.read "GridFiles" <|
    GridFiles.mk <$> .required "grid_geojson" Source.text <*> .required "grid_centroids" Source.text

structure GridOrigin where
  x : Float
  y : Float

def GridOrigin.toJson (o : GridOrigin) : Json := .object [("x", .real o.x), ("y", .real o.y)]

def GridOrigin.read : Json → Except Fault GridOrigin :=
  Record.read "GridOrigin" <|
    GridOrigin.mk <$> .required "x" Json.readReal <*> .required "y" Json.readReal

structure Bounds where
  minX : Float
  minY : Float
  maxX : Float
  maxY : Float

def Bounds.toJson (b : Bounds) : Json := .array [.real b.minX, .real b.minY, .real b.maxX, .real b.maxY]

def Bounds.coordinate (items : List Json) (index : Nat) : Except Fault Float :=
  match items[index]? with
  | some v => Json.readReal v
  | none => .error (.wrongLength index "an array of length 4")

def Bounds.read : Json → Except Fault Bounds
  | .array items => do
    let minX ← coordinate items 0
    let minY ← coordinate items 1
    let maxX ← coordinate items 2
    let maxY ← coordinate items 3
    if items.length > 4 then throw (.wrongLength items.length "fewer elements in array")
    return { minX, minY, maxX, maxY }
  | v => .error (.wrongType v.found "an array of length 4")

structure GridSummary where
  cellSize : Float
  cells : UInt64
  centroids : UInt64
  bounds : Bounds
  gridLines : Json
  boundary : Json
  files : GridFiles
  origin : GridOrigin

def GridSummary.toJson (g : GridSummary) : Json :=
  .object [
    ("boundary", g.boundary),
    ("bounds", g.bounds.toJson),
    ("cell_size", .real g.cellSize),
    ("cells", .nat g.cells.toNat),
    ("centroids", .nat g.centroids.toNat),
    ("files", g.files.toJson),
    ("grid_lines", g.gridLines),
    ("origin", g.origin.toJson)]

def GridSummary.read : Json → Except Fault GridSummary :=
  Record.read "GridSummary" <|
    GridSummary.mk <$> .required "cell_size" Json.readReal
      <*> .required "cells" word64
      <*> .required "centroids" word64
      <*> .required "bounds" Bounds.read
      <*> .required "grid_lines" .ok
      <*> .required "boundary" .ok
      <*> .required "files" GridFiles.read
      <*> .required "origin" GridOrigin.read

end MissionWorker.Service
