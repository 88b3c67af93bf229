import MissionWorker.Service.Mission

namespace MissionWorker.Service

open Document

structure Health where
  status : String

def Health.toJson (h : Health) : Json := .object [("status", .text h.status)]

def Health.read : Json → Except Fault Health :=
  Record.read "HealthStatus" <| Health.mk <$> .required "status" Source.text

structure BoundaryInfo where
  source : String
  bounds : List Float

def BoundaryInfo.toJson (b : BoundaryInfo) : Json :=
  .object [("bounds", .array (b.bounds.map .real)), ("source", .text b.source)]

def BoundaryInfo.read : Json → Except Fault BoundaryInfo :=
  Record.read "BoundaryInfo" <|
    BoundaryInfo.mk <$> .required "source" Source.text
      <*> .required "bounds" (Json.readList Json.readReal)

end MissionWorker.Service
