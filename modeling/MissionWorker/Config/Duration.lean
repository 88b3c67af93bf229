import MissionWorker.Json.Basic

namespace MissionWorker.Config

structure Duration where
  seconds : UInt64
  nanoseconds : Fin 1000000000
  deriving DecidableEq

namespace Duration

def ofSeconds (n : UInt64) : Duration where
  seconds := n
  nanoseconds := 0

def ofMillis (n : UInt64) : Duration where
  seconds := n / 1000
  nanoseconds := ⟨n.toNat % 1000 * 1000000, by omega⟩

def millis (d : Duration) : Nat := d.seconds.toNat * 1000 + d.nanoseconds.val / 1000000

def secondsToJson (d : Duration) : Json := .nat d.seconds.toNat

/-- The whole milliseconds, cut down to sixty-four bits. -/
def millisToJson (d : Duration) : Json := .nat (UInt64.ofNat d.millis).toNat

end Duration
end MissionWorker.Config
