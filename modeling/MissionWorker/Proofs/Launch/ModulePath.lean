import MissionWorker.Launch.Resolver
import MissionWorker.Proofs.Path

namespace MissionWorker.Launch

open MissionWorker.Path (colon)

variable {root : Path} {inherited : Option (List UInt8)} {bytes : List UInt8} {r : Resolver}

def Resolver.root? (r : Resolver) : Option Path := (r.worker.sourceRoot.map Path.ofText) <|> r.host.cwd

def entries (inherited : Option (List UInt8)) : List (List UInt8) :=
  inherited.elim [] (·.splitOn colon)

/-- What one who takes a list of directories apart finds in it, set against the root and what was
inherited. -/
structure Extends (root : Path) (inherited : Option (List UInt8)) (bytes : List UInt8) : Prop where
  pieces : bytes.splitOn colon =
    root.bytes :: (entries inherited).filter fun entry => (Path.mk entry).components ≠ root.components
  once : ∀ entry ∈ (bytes.splitOn colon).tail, (Path.mk entry).components ≠ root.components
  stable : Resolver.modulePath root (some bytes) = .ok bytes

namespace Resolver

theorem modulePaths_eq (root : Path) (inherited : Option (List UInt8)) :
    modulePaths root inherited =
      root :: ((entries inherited).map Path.mk).filter fun p => p.components ≠ root.components := by
  cases inherited with
  | none => rfl
  | some bytes =>
    simp only [modulePaths, entries, Option.elim_some, Path.split_eq_splitOn]
    refine congrArg (root :: ·) (List.filter_congr fun p _ => ?_)
    rw [Bool.eq_iff_iff]
    simp [Path.same]

theorem entries_clean : ∀ entry ∈ entries inherited, colon ∉ entry := by
  cases inherited with
  | none => simp [entries]
  | some bytes =>
    rw [entries, Option.elim_some, ← Path.split_eq_splitOn]
    exact Path.split_clean

theorem modulePaths_clean (clean : colon ∉ root.bytes) :
    ∀ p ∈ modulePaths root inherited, colon ∉ p.bytes := by
  rw [modulePaths_eq]
  intro p member
  rcases List.mem_cons.mp member with rfl | member
  · exact clean
  · obtain ⟨entry, among, rfl⟩ := List.mem_map.mp (List.mem_of_mem_filter member)
    exact entries_clean entry among

theorem modulePath_of_colon (split : colon ∈ root.bytes) :
    ∃ e, modulePath root inherited = .error e := by
  have found : (modulePaths root inherited).any (·.bytes.contains colon) := by
    simp [modulePaths_eq, split]
  exact ⟨_, if_pos found⟩

theorem modulePath_of_clean (clean : colon ∉ root.bytes) :
    modulePath root inherited =
      .ok (Path.join colon ((modulePaths root inherited).map Path.bytes)) := by
  have found : ¬ (modulePaths root inherited).any (·.bytes.contains colon) := by
    simpa using modulePaths_clean clean
  exact if_neg found

theorem modulePath_ok_iff : modulePath root inherited = .ok bytes ↔
    colon ∉ root.bytes ∧ bytes = Path.join colon ((modulePaths root inherited).map Path.bytes) := by
  by_cases split : colon ∈ root.bytes
  · obtain ⟨e, failed⟩ : ∃ e, modulePath root inherited = .error e := modulePath_of_colon split
    simp [failed, split]
  · rw [modulePath_of_clean split, Except.ok.injEq]
    exact ⟨fun same => ⟨split, same.symm⟩, fun same => same.2.symm⟩

theorem split_modulePath (built : modulePath root inherited = .ok bytes) :
    bytes.splitOn colon = (modulePaths root inherited).map Path.bytes := by
  obtain ⟨clean, rfl⟩ := modulePath_ok_iff.mp built
  rw [← Path.split_eq_splitOn]
  refine Path.split_join ?_ (by simp [modulePaths_eq])
  intro piece member
  obtain ⟨p, among, rfl⟩ := List.mem_map.mp member
  exact modulePaths_clean clean p among

/-- Extending by a root for the second time adds the root and takes it away. -/
theorem modulePaths_again (built : modulePath root inherited = .ok bytes) :
    modulePaths root (some bytes) = modulePaths root inherited := by
  rw [modulePaths_eq root (some bytes), entries, Option.elim_some, split_modulePath built,
    List.map_map, show Path.mk ∘ Path.bytes = id from rfl, List.map_id, modulePaths_eq root inherited]
  simp

theorem modulePath_extends (built : modulePath root inherited = .ok bytes) :
    Extends root inherited bytes := by
  have pieces : bytes.splitOn colon =
      root.bytes :: (entries inherited).filter fun entry =>
        (Path.mk entry).components ≠ root.components := by
    rw [split_modulePath built, modulePaths_eq, List.filter_map, List.map_cons, List.map_map,
      show Path.bytes ∘ Path.mk = id from rfl, List.map_id]
    rfl
  refine ⟨pieces, ?_, ?_⟩
  · rw [pieces, List.tail_cons]
    intro entry member
    simpa using List.of_mem_filter member
  · rw [modulePath_ok_iff, modulePaths_again built]
    exact modulePath_ok_iff.mp built

theorem complete_modulePath (spec : Spec) :
    (r.complete spec).env.lookup "PYTHONPATH" = spec.env.lookup "PYTHONPATH" := by
  simp only [complete, Spec.withVariable, Spec.withArgs]
  rw [lookup_setVariable_of_ne _ _ (by decide), lookup_setVariable_of_ne _ _ (by decide)]

def fromSources (r : Resolver) (root : Path) (bytes : List UInt8) : Spec :=
  r.complete ((({ program := .ofText r.worker.python, args := ["-m", r.worker.module] : Spec }
    |>.withVariable "PYTHONPATH" bytes)
    |>.withVariable "PYTHONUNBUFFERED" (Text.Utf8.encode "1"))
    |>.within root)

theorem resolve_source (source : r.mode = .source) (known : r.root? = some root) :
    r.resolve = (modulePath root r.host.modulePath).map (r.fromSources root) := by
  rw [root?] at known
  rw [resolve, source]
  simp only [sourceSpec, known]
  cases modulePath root r.host.modulePath <;> rfl

theorem fromSources_modulePath :
    (r.fromSources root bytes).env.lookup "PYTHONPATH" = some bytes := by
  rw [fromSources, complete_modulePath]
  simp only [Spec.within, Spec.withVariable]
  rw [lookup_setVariable_of_ne _ _ (by decide), lookup_setVariable]

end Resolver

open Resolver in
/-- A root cannot be put before what is inherited if a colon would cut it, and only then. Else the
reader finds the root, and behind it all that was inherited and is another directory; and this is
what a worker is given that is started from its sources. -/
theorem module_path_extended (root : Path) (inherited : Option (List UInt8)) :
    ((∃ e, modulePath root inherited = .error e) ↔ colon ∈ root.bytes) ∧
    (∀ bytes, modulePath root inherited = .ok bytes → Extends root inherited bytes) ∧
    ∀ r : Resolver, r.mode = .source → r.root? = some root → r.host.modulePath = inherited →
      ((∃ e, r.resolve = .error e) ↔ colon ∈ root.bytes) ∧
      ∀ spec, r.resolve = .ok spec → ∃ bytes, modulePath root inherited = .ok bytes ∧
        spec.env.lookup "PYTHONPATH" = some bytes := by
  have fails : (∃ e, modulePath root inherited = .error e) ↔ colon ∈ root.bytes := by
    constructor
    · rintro ⟨e, failed⟩
      by_contra clean
      rw [modulePath_of_clean clean] at failed
      cases failed
    · exact modulePath_of_colon
  refine ⟨fails, fun bytes built => modulePath_extends built, ?_⟩
  rintro r source known rfl
  rw [resolve_source source known, ← fails]
  cases built : modulePath root r.host.modulePath with
  | error e => exact ⟨by simp [Except.map], fun spec resolved => by cases resolved⟩
  | ok bytes =>
    refine ⟨by simp [Except.map], fun spec resolved => ⟨bytes, rfl, ?_⟩⟩
    cases resolved
    exact fromSources_modulePath

/-- The root is inherited twice, spelled in other ways, among entries that are empty, doubled, and
relative. -/
theorem module_path_extended_of_spellings :
    let root := Path.ofText "/src/planner"
    let inherited := Text.Utf8.encode "/src/./planner/::/opt:.://src//planner:/opt"
    let extended := Text.Utf8.encode "/src/planner::/opt:.:/opt"
    ∃ (r : Resolver) (spec : Spec), r.mode = .source ∧ r.root? = some root ∧
      r.host.modulePath = some inherited ∧ r.resolve = .ok spec ∧
      spec.env.lookup "PYTHONPATH" = some extended ∧ Extends root (some inherited) extended := by
  intro root inherited extended
  let r : Resolver := {
    worker := { sourceRoot := some "/src/planner" }
    bridge := {}
    host := { modulePath := some inherited } }
  have built : Resolver.modulePath root (some inherited) = .ok extended :=
    Resolver.modulePath_ok_iff.mpr ⟨by decide +kernel, by decide +kernel⟩
  have resolved : r.resolve = .ok (r.fromSources root extended) := by
    rw [Resolver.resolve_source rfl rfl]
    exact congrArg (Except.map (r.fromSources root)) built
  obtain ⟨_, extends_, launched⟩ := module_path_extended root (some inherited)
  obtain ⟨bytes, same, told⟩ := (launched r rfl rfl rfl).2 _ resolved
  cases same.symm.trans built
  exact ⟨r, _, rfl, rfl, rfl, resolved, told, extends_ _ built⟩

end MissionWorker.Launch
