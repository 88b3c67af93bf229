import MissionWorker.Launch.Resolver
import MissionWorker.Launch.Start
import MissionWorker.Proofs.Path

namespace MissionWorker.Launch

variable {spec : Spec} {p d : Path} {r : Resolver}

/-- The path at which the process looks for its program, from the directory of the application. -/
def Spec.sought (spec : Spec) : Path :=
  match spec.directory with
  | some directory => directory.append spec.program
  | none => spec.program

def Resolver.named? (r : Resolver) : Option Path :=
  match r.mode with
  | .override => r.worker.executable.map .ofText
  | .packaged => r.bundled?
  | .source => none

namespace Spec

theorem sought_of_absolute (absolute : spec.program.isAbsolute) : spec.sought = spec.program := by
  unfold sought
  split
  · exact Path.append_of_absolute absolute
  · rfl

theorem steps_sought {h : Place} {cwd : Path} (entered : h.enter spec.directory = .ok cwd) :
    (Files.steps cwd spec.program).filter (!Path.isIdle ·) = (h.cwd.append spec.sought).names := by
  cases absolute : spec.program.isAbsolute with
  | true => simp [Files.steps, sought_of_absolute, Path.append_of_absolute, absolute, Path.names]
  | false =>
    have steps : (Files.steps cwd spec.program).filter (!Path.isIdle ·) =
        cwd.names ++ spec.program.names := by
      simp [Files.steps, absolute, Path.names]
    rw [steps]
    cases directory : spec.directory with
    | none =>
      simp only [Place.enter, directory] at entered
      cases entered
      simp [sought, directory, Path.names_append, absolute]
    | some d =>
      have away : cwd = h.cwd.append d := by
        simp only [Place.enter, directory] at entered
        split at entered <;> cases entered
        rfl
      simp only [away, sought, directory, Path.names_append, Path.isAbsolute_append absolute, absolute,
        Bool.false_eq_true, if_false]
      split <;> simp

end Spec

/-- Where a launch has its program looked for, set against the path that is meant. -/
structure Spec.Seeks (spec : Spec) (p : Path) : Prop where
  program : spec.program = p
  directory : spec.directory = p.parent?.filter (!·.isEmpty)
  agrees : ∀ cwd : Path, (cwd.append spec.sought).same (cwd.append p) ↔
    p.isAbsolute ∨ p.names.length ≤ 1
  followed : ∀ {h : Place} {cwd : Path}, h.enter spec.directory = .ok cwd →
    (Files.steps cwd spec.program).filter (!Path.isIdle ·) = (h.cwd.append spec.sought).names

namespace Spec

theorem same_sought (relative : p.isAbsolute = false) (above : p.parent? = some d)
    (nonempty : d.isEmpty = false) (cwd : Path) :
    (cwd.append (d.append p)).same (cwd.append p) ↔ p.names.length ≤ 1 := by
  obtain ⟨inside, steps, start⟩ := Path.parent?_of_relative relative above
  have within : (d.append p).isAbsolute = false := (Path.isAbsolute_append relative).trans inside
  have origins : (cwd.append (d.append p)).origin = (cwd.append p).origin := by
    cases empty : cwd.isEmpty with
    | true =>
      rw [Path.append_of_empty empty, Path.append_of_empty empty, Path.origin_append relative nonempty,
        start nonempty]
    | false => rw [Path.origin_append within empty, Path.origin_append relative empty]
  rw [Path.same_iff_names origins]
  simp only [Path.names_append, within, relative, Bool.false_eq_true, if_false,
    List.append_cancel_left_eq, List.append_left_eq_self, steps, List.eq_nil_iff_length_eq_zero,
    List.length_dropLast]
  omega

theorem Seeks.of_parent (program : spec.program = p)
    (directory : spec.directory = p.parent?.filter (!·.isEmpty)) : spec.Seeks p where
  program := program
  directory := directory
  followed := steps_sought
  agrees := by
    intro cwd
    cases absolute : p.isAbsolute with
    | true =>
      rw [sought_of_absolute (program ▸ absolute), program]
      simp [Path.same]
    | false =>
      simp only [Bool.false_eq_true, false_or]
      cases above : p.parent? with
      | none =>
        rw [above] at directory
        have nowhere : spec.sought = p := by simp [sought, directory, program]
        simp [nowhere, Path.same, Path.names_of_parentless absolute above]
      | some d =>
        cases nonempty : d.isEmpty with
        | true =>
          rw [above, Option.filter_some, nonempty] at directory
          have nowhere : spec.sought = p := by simp [sought, directory, program]
          have few := (Path.parent?_of_relative absolute above).2.1
          rw [Path.names_of_empty nonempty] at few
          have short : p.names.length ≤ 1 := by
            have counted := congrArg List.length few
            rw [List.length_dropLast] at counted
            simp only [List.length_nil] at counted
            omega
          simp [nowhere, Path.same, short]
        | false =>
          rw [above, Option.filter_some, nonempty] at directory
          have behind : spec.sought = d.append p := by simp [sought, directory, program]
          rw [behind]
          exact same_sought absolute above nonempty cwd

end Spec

namespace Resolver

theorem fromItsDirectory_seeks (program : Path) : (fromItsDirectory program).Seeks program := by
  refine .of_parent ?_ ?_
  · unfold fromItsDirectory
    split <;> rfl
  · unfold fromItsDirectory
    split
    · rename_i directory above
      exact above.symm
    · rename_i nowhere
      exact nowhere.symm

theorem bundled?_names (bundled : r.bundled? = some p) : 2 ≤ p.names.length := by
  obtain ⟨resources, _, rfl⟩ := Option.map_eq_some_iff.mp bundled
  have folder : (Path.ofText "worker").isAbsolute = false ∧ (Path.ofText "worker").names.length = 1 := by
    decide +kernel
  have file : (Path.ofText bundledName).isAbsolute = false ∧
      (Path.ofText bundledName).names.length = 1 := by decide +kernel
  simp only [Path.names_append, folder.1, file.1, Bool.false_eq_true, if_false, List.length_append,
    folder.2, file.2]
  omega

theorem bundledSpec_seeks (built : r.bundledSpec = .ok spec) (bundled : r.bundled? = some p) :
    spec.Seeks p := by
  obtain ⟨d, above, nonempty⟩ := Path.exists_parent (bundled?_names bundled)
  rw [bundledSpec, bundled] at built
  cases built
  exact .of_parent rfl (by rw [above, Option.filter_some, nonempty]; rfl)

theorem complete_seeks (seeks : spec.Seeks p) : (r.complete spec).Seeks p :=
  .of_parent seeks.program seeks.directory

end Resolver

open Resolver in
/-- Where the mode names a program, this is the program of every launch that is resolved. Where a
packaged worker is concerned, the path is longer than one step. -/
theorem program_sought (resolved : r.resolve = .ok spec) (mode : r.mode ≠ .source) :
    ∃ p, r.named? = some p ∧ spec.Seeks p ∧ (r.mode = .packaged → 2 ≤ p.names.length) := by
  cases rule : r.mode with
  | source => exact absurd rule mode
  | override =>
    simp only [resolve, rule] at resolved
    cases resolved
    have named : r.named? = r.worker.executable.map .ofText := by rw [named?, rule]
    unfold Resolver.mode at rule
    split at rule
    · rename_i executable
      obtain ⟨text, told⟩ := Option.isSome_iff_exists.mp executable
      refine ⟨.ofText text, by rw [named, told]; rfl, complete_seeks ?_, by simp⟩
      rw [told]
      exact fromItsDirectory_seeks _
    · split at rule <;> cases rule
  | packaged =>
    simp only [resolve, rule] at resolved
    have named : r.named? = r.bundled? := by rw [named?, rule]
    cases built : r.bundledSpec with
    | error e =>
      rw [built] at resolved
      cases resolved
    | ok bare =>
      rw [built] at resolved
      cases resolved
      cases bundled : r.bundled? with
      | none =>
        rw [bundledSpec, bundled] at built
        cases built
      | some p =>
        exact ⟨p, by rw [named, bundled], complete_seeks (bundledSpec_seeks built bundled),
          fun _ => bundled?_names bundled⟩

/-- An executable that starts from the root. -/
theorem program_sought_from_root : ∃ r spec p, Resolver.resolve r = .ok spec ∧ r.mode ≠ .source ∧
    r.named? = some p ∧ p.isAbsolute ∧ spec.Seeks p := by
  let worker : Config.Worker := { executable := some "/opt/custom/worker-bin" }
  let r : Resolver := { worker, bridge := {}, host := {} }
  have mode : r.mode ≠ .source := by decide
  have resolved : r.resolve = .ok _ := rfl
  obtain ⟨p, named, seeks, _⟩ := program_sought resolved mode
  refine ⟨r, _, p, resolved, mode, named, ?_, seeks⟩
  obtain rfl := Option.some.inj named
  decide +kernel

/-- The executable is named by a relative path, and is there; but another one is started, which the
same path leads to from the executable's own directory. -/
theorem relative_program_missed : ∃ (r : Resolver) (spec : Spec) (h : Place) (p : Path)
    (meant other : List UInt8), r.mode = .override ∧ r.resolve = .ok spec ∧ r.named? = some p ∧
    h.files.read h.cwd p = .ok meant ∧ (h.start spec).toOption = some other ∧ meant ≠ other ∧
    ¬ (h.cwd.append spec.sought).same (h.cwd.append p) := by
  let worker : Config.Worker := { executable := some "bin/worker" }
  let name (s : String) : List UInt8 := Text.Utf8.encode s
  let near : Files := .directory [(name "worker", .file [2] true)]
  let bin : Files := .directory [(name "worker", .file [1] true), (name "bin", near)]
  let app : Files := .directory [(name "app", .directory [(name "bin", bin)])]
  let h : Place := { files := app, cwd := .ofText "/app", search := [] }
  refine ⟨{ worker, bridge := {}, host := {} }, _, h, .ofText "bin/worker", [1], [2], rfl, rfl, rfl,
    ?_, ?_, by decide, ?_⟩
  · decide +kernel
  · decide +kernel
  · decide +kernel

end MissionWorker.Launch
