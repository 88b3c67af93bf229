import MissionWorker.Config.Bridge

namespace MissionWorker

def version : String := "0.3.2"

namespace Bridge

/-- Where the worker is, how long its answers may take in seconds, and how the bridge introduces
itself. -/
structure Settings where
  baseUrl : String
  requestTimeout : UInt64
  healthTimeout : UInt64
  userAgent : String

def Settings.ofConfig (c : Config.Bridge) : Settings where
  baseUrl := c.baseUrl
  requestTimeout := c.requestTimeout
  healthTimeout := c.healthTimeout
  userAgent := "fl-mission-planner/" ++ version

def Settings.ofBaseUrl (baseUrl : String) : Settings := { ofConfig {} with baseUrl }

end Bridge
end MissionWorker
