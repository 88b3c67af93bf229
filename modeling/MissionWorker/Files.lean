import MissionWorker.Path

namespace MissionWorker

inductive Files where
  | file (content : List UInt8) (executable : Bool)
  | directory (entries : List (List UInt8 × Files))

instance : Inhabited Files := ⟨.directory []⟩

namespace Files

inductive Cause where
  | notFound
  | notDirectory
  | isDirectory
  | nameTooLong
  | present
  | zeroByte
  deriving DecidableEq

def Cause.message : Cause → String
  | .notFound => "No such file or directory (os error 2)"
  | .notDirectory => "Not a directory (os error 20)"
  | .isDirectory => "Is a directory (os error 21)"
  | .present => "File exists (os error 17)"
  | .nameTooLong => "File name too long (os error 36)"
  | .zeroByte => "file name contained an unexpected NUL byte"

def maxName : Nat := 255
def maxPath : Nat := 4095

def isDirectory : Files → Bool
  | .directory _ => true
  | .file _ _ => false

def child? (name : List UInt8) : List (List UInt8 × Files) → Option Files
  | [] => none
  | (n, f) :: rest => if n = name then some f else child? name rest

def below? : (names : List (List UInt8)) → Files → Option Files
  | [], here => some here
  | name :: rest, .directory entries => (child? name entries).bind (below? rest)
  | _ :: _, .file _ _ => none

/-- The names that steps lead through in the end, after those already followed. Every step but the
last leads into a directory, and so does the last one where a slash follows it. An empty step or a dot
stays where it is, and two dots lead out. -/
def walk (root : Files) : (names steps : List (List UInt8)) → Except Cause (List (List UInt8))
  | names, [] => .ok names
  | names, step :: rest =>
    match root.below? names with
    | some (.directory entries) =>
      if Path.isIdle step then walk root names rest
      else if Path.isParent step then walk root names.dropLast rest
      else if step.length > maxName then .error .nameTooLong
      else if (child? step entries).isSome then walk root (names ++ [step]) rest
      else .error .notFound
    | _ => .error .notDirectory

def steps (cwd p : Path) : List (List UInt8) :=
  (if p.isAbsolute then [] else Path.split Path.slash cwd.bytes) ++ Path.split Path.slash p.bytes

def checkPath (p : Path) : Except Cause Unit :=
  if p.bytes.contains 0 then .error .zeroByte
  else if p.isEmpty then .error .notFound
  else if p.bytes.length > maxPath then .error .nameTooLong
  else .ok ()

def find (root : Files) (cwd p : Path) : Except Cause Files := do
  checkPath p
  let names ← walk root [] (steps cwd p)
  match root.below? names with
  | some found => return found
  | none => throw .notFound

def holds (root : Files) (cwd p : Path) : Bool := (root.find cwd p).isOk

def isFile (root : Files) (cwd p : Path) : Bool :=
  match root.find cwd p with
  | .ok (.file _ _) => true
  | _ => false

def read (root : Files) (cwd p : Path) : Except Cause (List UInt8) :=
  match root.find cwd p with
  | .ok (.file content _) => .ok content
  | .ok (.directory _) => .error .isDirectory
  | .error cause => .error cause

def setEntry (name : List UInt8) (f : Files) :
    List (List UInt8 × Files) → List (List UInt8 × Files)
  | [] => [(name, f)]
  | (n, g) :: rest => if n = name then (name, f) :: rest else (n, g) :: setEntry name f rest

def plant (content : List UInt8) (executable : Bool) : (steps : List (List UInt8)) → Files → Files
  | [], _ => .file content executable
  | step :: rest, here =>
    let entries := match here with
      | .directory entries => entries
      | .file _ _ => []
    let next := (child? step entries).getD (.directory [])
    .directory (setEntry step (plant content executable rest next) entries)

def plantDirectory : (steps : List (List UInt8)) → Files → Files
  | [], here => if here.isDirectory then here else .directory []
  | step :: rest, here =>
    let entries := match here with
      | .directory entries => entries
      | .file _ _ => []
    let next := (child? step entries).getD (.directory [])
    .directory (setEntry step (plantDirectory rest next) entries)

def makeDirectories (root : Files) (names : List (List UInt8)) :
    (steps : List (List UInt8)) → Except Cause Files
  | [] => .ok root
  | step :: rest =>
    match root.below? names with
    | some (.directory entries) =>
      if Path.isIdle step then makeDirectories root names rest
      else if Path.isParent step then makeDirectories root names.dropLast rest
      else if step.length > maxName then .error .nameTooLong
      else match child? step entries with
        | some (.file _ _) => .error (if rest.all Path.isIdle then .present else .notDirectory)
        | some (.directory _) => makeDirectories root (names ++ [step]) rest
        | none => makeDirectories (plantDirectory (names ++ [step]) root) (names ++ [step]) rest
    | _ => .error .notDirectory

def write (root : Files) (cwd p : Path) (content : List UInt8) : Except Cause Files := do
  checkPath p
  let all := steps cwd p
  let proper := (all.reverse.dropWhile List.isEmpty).reverse
  let name := proper.getLast?.getD []
  let names ← walk root [] proper.dropLast
  match root.below? names with
  | some (.directory entries) =>
    if Path.isIdle name || Path.isParent name || proper.length < all.length then throw .isDirectory
    if name.length > maxName then throw .nameTooLong
    match child? name entries with
    | some (.directory _) => throw .isDirectory
    | some (.file _ executable) => return plant content executable (names ++ [name]) root
    | none => return plant content false (names ++ [name]) root
  | _ => throw .notDirectory

end Files
end MissionWorker
