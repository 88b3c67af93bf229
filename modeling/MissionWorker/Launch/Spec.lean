import MissionWorker.Path

namespace MissionWorker.Launch

structure Spec where
  program : Path
  args : List String := []
  env : List (String × List UInt8) := []
  directory : Option Path := none

namespace Spec

def withArgs (spec : Spec) (args : List String) : Spec := { spec with args := spec.args ++ args }

/-- The variables with one more, at its place in the order; it replaces a variable of its name. -/
def setVariable (name : String) (value : List UInt8) :
    List (String × List UInt8) → List (String × List UInt8)
  | [] => [(name, value)]
  | (n, v) :: rest =>
    if name < n then (name, value) :: (n, v) :: rest
    else if n = name then (name, value) :: rest
    else (n, v) :: setVariable name value rest

def withVariable (spec : Spec) (name : String) (value : List UInt8) : Spec :=
  { spec with env := setVariable name value spec.env }

def within (spec : Spec) (directory : Path) : Spec := { spec with directory := some directory }

def commandLine (spec : Spec) : String := " ".intercalate (spec.program.display :: spec.args)

end Spec

theorem lookup_setVariable (name : String) (value : List UInt8) (env : List (String × List UInt8)) :
    (Spec.setVariable name value env).lookup name = some value := by
  induction env with
  | nil => simp [Spec.setVariable]
  | cons entry env ih =>
    obtain ⟨n, v⟩ := entry
    rw [Spec.setVariable]
    split
    · simp
    · split
      · simp
      · rename_i other
        have differ : (name == n) = false := by
          rw [beq_eq_false_iff_ne]
          exact Ne.symm other
        simp [List.lookup_cons, differ, ih]

theorem lookup_setVariable_of_ne {name other : String} (value : List UInt8)
    (env : List (String × List UInt8)) (differ : other ≠ name) :
    (Spec.setVariable name value env).lookup other = env.lookup other := by
  have unlike : (other == name) = false := beq_eq_false_iff_ne.mpr differ
  induction env with
  | nil => simp [Spec.setVariable, List.lookup_cons, unlike]
  | cons entry env ih =>
    obtain ⟨n, v⟩ := entry
    rw [Spec.setVariable]
    split
    · simp [List.lookup_cons, unlike]
    · split
      · rename_i same
        simp [List.lookup_cons, same, unlike]
      · simp [List.lookup_cons, ih]

end MissionWorker.Launch
