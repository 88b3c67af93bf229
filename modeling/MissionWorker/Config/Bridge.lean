import MissionWorker.Config.Duration
import MissionWorker.Config.Error
import MissionWorker.Document.Record

namespace MissionWorker.Config

open Document

/-- The part of the configuration about calls to the worker. Times are in seconds. -/
structure Bridge where
  host : String := "127.0.0.1"
  port : UInt16 := 8765
  requestTimeout : UInt64 := 120
  healthTimeout : UInt64 := 2
  deriving DecidableEq, Inhabited

namespace Bridge

def part : String := "bridge"

def read {σ : Type} [Source σ] : σ → Except Fault Bridge :=
  Record.read "BridgeConfig" <|
    Bridge.mk <$> .defaulted "host" "127.0.0.1" Source.text
      <*> .defaulted "port" 8765 word16
      <*> .defaulted "request_timeout" 120 word64
      <*> .defaulted "health_timeout" 2 word64

def toJson (c : Bridge) : Json :=
  .object [
    ("health_timeout", (Duration.ofSeconds c.healthTimeout).secondsToJson),
    ("host", .text c.host),
    ("port", .nat c.port.toNat),
    ("request_timeout", (Duration.ofSeconds c.requestTimeout).secondsToJson)]

def check (c : Bridge) : Except Error Unit := do
  Rule.loopback part "host" c.host
  Rule.positive part "port" c.port.toNat
  if c.requestTimeout = 0 then throw (.invalid part "request_timeout must be greater than 0")
  if c.healthTimeout = 0 then throw (.invalid part "health_timeout must be greater than 0")

/-- The host and the port, an address of version six in brackets. -/
def address (c : Bridge) : String :=
  let host := if c.host.toList.contains ':' then "[" ++ c.host ++ "]" else c.host
  host ++ ":" ++ toString c.port.toNat

def baseUrl (c : Bridge) : String := "http://" ++ c.address

end Bridge
end MissionWorker.Config
