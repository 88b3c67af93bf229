import MissionWorker.Config.Duration
import MissionWorker.Config.Error
import MissionWorker.Document.Record

namespace MissionWorker.Config

open Document

/-- The part of the configuration about starting, stopping and restarting. Times are in
milliseconds. -/
structure Supervisor where
  probeAttempts : UInt32 := 60
  probeInterval : UInt64 := 500
  stopTimeout : UInt64 := 2000
  maxRestarts : UInt32 := 1
  reconcileOnStart : Bool := true
  deriving DecidableEq, Inhabited

namespace Supervisor

def part : String := "supervisor"

def read {σ : Type} [Source σ] : σ → Except Fault Supervisor :=
  Record.read "SupervisorConfig" <|
    Supervisor.mk <$> .defaulted "probe_attempts" 60 word32
      <*> .defaulted "probe_interval" 500 word64
      <*> .defaulted "stop_timeout" 2000 word64
      <*> .defaulted "max_restarts_per_request" 1 word32
      <*> .defaulted "reconcile_on_start" true Source.flag

def toJson (c : Supervisor) : Json :=
  .object [
    ("max_restarts_per_request", .nat c.maxRestarts.toNat),
    ("probe_attempts", .nat c.probeAttempts.toNat),
    ("probe_interval", (Duration.ofMillis c.probeInterval).millisToJson),
    ("reconcile_on_start", .bool c.reconcileOnStart),
    ("stop_timeout", (Duration.ofMillis c.stopTimeout).millisToJson)]

def restartLimit : UInt32 := 10

def check (c : Supervisor) : Except Error Unit := do
  Rule.positive part "probe_attempts" c.probeAttempts.toNat
  if c.probeInterval = 0 then throw (.invalid part "probe_interval must be greater than 0")
  if c.stopTimeout = 0 then throw (.invalid part "stop_timeout must be greater than 0")
  if c.maxRestarts > restartLimit then
    throw (.invalid part
      ("max_restarts_per_request must be at most 10, got " ++ toString c.maxRestarts.toNat))

end Supervisor
end MissionWorker.Config
