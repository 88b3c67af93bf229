import MissionWorker.Proofs.Config.Readings
import MissionWorker.Proofs.Yaml.Written

namespace MissionWorker.Config

open Document Record

namespace Duration

theorem millis_ofMillis (n : UInt64) : (ofMillis n).millis = n.toNat := by
  have seconds : (ofMillis n).seconds.toNat = n.toNat / 1000 := by simp [ofMillis]
  have rest : (ofMillis n).nanoseconds.val = n.toNat % 1000 * 1000000 := rfl
  rw [millis, seconds, rest]
  omega

theorem millisToJson_ofMillis (n : UInt64) : (ofMillis n).millisToJson = .nat n.toNat := by
  rw [millisToJson, millis_ofMillis, UInt64.ofNat_toNat]

end Duration

variable {σ : Type} [Source σ] {write : Json → σ} (gone : List String → Bool)

section Members

variable {α : Type} {encode : α → Json} {name other : String} {o : Option α}

theorem names_memberOf : ((memberOf encode name o).map Prod.fst).Sublist [name] := by
  cases o with
  | none => exact List.nil_sublist _
  | some a => exact .refl _

@[simp] theorem find?_memberOf :
    Json.Members.find? other (memberOf encode name o) = if name = other then o.map encode else none := by
  cases o <;> simp [memberOf]

end Members

namespace Worker

def reset (c : Worker) : Worker where
  executable := if gone ["executable"] then ({} : Worker).executable else c.executable
  python := if gone ["python"] then ({} : Worker).python else c.python
  module := if gone ["module"] then ({} : Worker).module else c.module
  sourceRoot := if gone ["source_root"] then ({} : Worker).sourceRoot else c.sourceRoot
  packaged := if gone ["packaged"] then ({} : Worker).packaged else c.packaged
  resourcesDir := if gone ["resources_dir"] then ({} : Worker).resourcesDir else c.resourcesDir
  dataDir := if gone ["data_dir"] then ({} : Worker).dataDir else c.dataDir
  logLevel := if gone ["log_level"] then ({} : Worker).logLevel else c.logLevel

theorem read_pruned (keeps : Keeps write) (c : Worker) :
    read (write (c.toJson.prune gone)) = .ok (c.reset gone) := by
  apply keeps.record
  case distinct =>
    have names : (["data_dir", "executable", "log_level", "module", "packaged", "python", "resources_dir",
        "source_root"] : List String).Nodup := by decide
    apply List.Nodup.sublist ?_ names
    simp only [List.map_append]
    exact ((((((names_memberOf.append names_memberOf).append (.refl _)).append names_memberOf).append
      (.refl _)).append names_memberOf).append names_memberOf)
  case known =>
    refine .seq (.seq (.seq (.seq (.seq (.seq (.seq (.map ?executable) ?python) ?module) ?source) ?packaged)
      ?resources) ?data) ?level
    case executable | source | resources | data =>
      exact .optional .text (by simp) fun s _ => keeps.optionalPath s
    case packaged => exact .optional .bool (by simp) fun b _ => keeps.optionalFlag b
    case python => exact .remaining (v := .text c.python) (by simp) (keeps.text _)
    case module => exact .remaining (v := .text c.module) (by simp) (keeps.text _)
    case level => exact .remaining (v := .text c.logLevel) (by simp) (keeps.text _)

end Worker

namespace Bridge

def reset (c : Bridge) : Bridge where
  host := if gone ["host"] then ({} : Bridge).host else c.host
  port := if gone ["port"] then ({} : Bridge).port else c.port
  requestTimeout := if gone ["request_timeout"] then ({} : Bridge).requestTimeout else c.requestTimeout
  healthTimeout := if gone ["health_timeout"] then ({} : Bridge).healthTimeout else c.healthTimeout

theorem read_pruned (keeps : Keeps write) (c : Bridge) :
    read (write (c.toJson.prune gone)) = .ok (c.reset gone) := by
  apply keeps.record (by simp)
  refine .seq (.seq (.seq (.map ?host) ?port) ?request) ?health
  case host => exact .remaining rfl (keeps.text c.host)
  case port => exact .remaining rfl (keeps.word16 c.port)
  case request => exact .remaining rfl (keeps.word64 c.requestTimeout)
  case health => exact .remaining rfl (keeps.word64 c.healthTimeout)

end Bridge

namespace Supervisor

def reset (c : Supervisor) : Supervisor where
  probeAttempts := if gone ["probe_attempts"] then ({} : Supervisor).probeAttempts else c.probeAttempts
  probeInterval := if gone ["probe_interval"] then ({} : Supervisor).probeInterval else c.probeInterval
  stopTimeout := if gone ["stop_timeout"] then ({} : Supervisor).stopTimeout else c.stopTimeout
  maxRestarts :=
    if gone ["max_restarts_per_request"] then ({} : Supervisor).maxRestarts else c.maxRestarts
  reconcileOnStart :=
    if gone ["reconcile_on_start"] then ({} : Supervisor).reconcileOnStart else c.reconcileOnStart

theorem read_pruned (keeps : Keeps write) (c : Supervisor) :
    read (write (c.toJson.prune gone)) = .ok (c.reset gone) := by
  have millis (n : UInt64) : word64 (write (Duration.ofMillis n).millisToJson) = .ok n := by
    rw [Duration.millisToJson_ofMillis]
    exact keeps.word64 n
  apply keeps.record (by simp)
  refine .seq (.seq (.seq (.seq (.map ?attempts) ?interval) ?timeout) ?restarts) ?reconcile
  case attempts => exact .remaining rfl (keeps.word32 c.probeAttempts)
  case interval => exact .remaining rfl (millis c.probeInterval)
  case timeout => exact .remaining rfl (millis c.stopTimeout)
  case restarts => exact .remaining rfl (keeps.word32 c.maxRestarts)
  case reconcile => exact .remaining rfl (keeps.flag c.reconcileOnStart)

end Supervisor

namespace Logging

def reset (c : Logging) : Logging where
  level := if gone ["level"] then ({} : Logging).level else c.level
  format := if gone ["format"] then ({} : Logging).format else c.format
  includeLocation := if gone ["include_location"] then ({} : Logging).includeLocation else c.includeLocation
  forwardWorkerOutput :=
    if gone ["forward_worker_output"] then ({} : Logging).forwardWorkerOutput else c.forwardWorkerOutput

theorem readLevel_name (keeps : Keeps write) (l : Level) : readLevel (write (.text l.name)) = .ok l := by
  have known : l.name ∈ Level.all.map Level.name := by cases l <;> decide
  have named : Level.ofName? l.name = some l := Level.ofName?_eq_some.mpr rfl
  rw [readLevel, keeps.choice known]
  simp [Except.map, named]

theorem readFormat_name (keeps : Keeps write) (f : Format) : readFormat (write (.text f.name)) = .ok f := by
  have known : f.name ∈ Format.all.map Format.name := by cases f <;> decide
  have named : Format.ofName? f.name = some f := Format.ofName?_eq_some.mpr rfl
  rw [readFormat, keeps.choice known]
  simp [Except.map, named]

theorem read_pruned (keeps : Keeps write) (c : Logging) :
    read (write (c.toJson.prune gone)) = .ok (c.reset gone) := by
  apply keeps.record (by simp)
  refine .seq (.seq (.seq (.map ?level) ?format) ?location) ?forward
  case level => exact .remaining rfl (readLevel_name keeps c.level)
  case format => exact .remaining rfl (readFormat_name keeps c.format)
  case location => exact .remaining rfl (keeps.flag c.includeLocation)
  case forward => exact .remaining rfl (keeps.flag c.forwardWorkerOutput)

end Logging

/-- The configuration with the values at these places back at their defaults; a place is a part, or a
value in one. -/
def reset (c : Config) : Config where
  worker := if gone ["worker"] then {} else c.worker.reset fun path => gone ("worker" :: path)
  bridge := if gone ["bridge"] then {} else c.bridge.reset fun path => gone ("bridge" :: path)
  supervisor :=
    if gone ["supervisor"] then {} else c.supervisor.reset fun path => gone ("supervisor" :: path)
  logging := if gone ["logging"] then {} else c.logging.reset fun path => gone ("logging" :: path)

theorem read_pruned (keeps : Keeps write) (c : Config) :
    read (write (c.toJson.prune gone)) = .ok (c.reset gone) := by
  apply keeps.record (by simp)
  refine .seq (.seq (.seq (.map ?worker) ?bridge) ?supervisor) ?logging
  case worker => exact .remaining rfl (c.worker.read_pruned _ keeps)
  case bridge => exact .remaining rfl (c.bridge.read_pruned _ keeps)
  case supervisor => exact .remaining rfl (c.supervisor.read_pruned _ keeps)
  case logging => exact .remaining rfl (c.logging.read_pruned _ keeps)

theorem reset_none (c : Config) : c.reset (fun _ => false) = c := rfl

theorem written_config_read (keeps : Keeps write) (c : Config) :
    read (write c.toJson) = .ok c ∧
      ∀ gone, read (write (c.toJson.prune gone)) = .ok (c.reset gone) := by
  refine ⟨?whole, fun gone => c.read_pruned gone keeps⟩
  have whole := c.read_pruned (fun _ => false) keeps
  rwa [Json.prune_none, reset_none] at whole

/-- Times as long as there are, in a file from which a part and a value of another are missing. -/
theorem written_config_read_at_limits : ∃ c : Config,
    c.bridge.requestTimeout = 18446744073709551615 ∧
    c.supervisor.stopTimeout = 18446744073709551615 ∧
    read (Yaml.written c.toJson) = .ok c ∧
    read (Yaml.written (c.toJson.prune fun path => path ∈ [["logging"], ["bridge", "port"]])) =
      .ok { c with bridge.port := 8765, logging := {} } := by
  let c : Config := {
    bridge := { port := 9000, requestTimeout := 18446744073709551615 }
    supervisor := { stopTimeout := 18446744073709551615 }
    logging := { level := .trace } }
  obtain ⟨whole, some⟩ := written_config_read Yaml.keeps_written c
  exact ⟨c, rfl, rfl, whole, some _⟩

end MissionWorker.Config
