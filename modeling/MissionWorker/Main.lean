import MissionWorker.CommandLine.Basic

namespace MissionWorker.Main

open CommandLine (System)

def asked : List String :=
  Config.Override.all.map (Config.Override.variableName Config.defaultLead) ++
    ["HOME", "PYTHONPATH", "TMPDIR", "XDG_DATA_HOME"]

def environment : IO Environment :=
  asked.foldlM (fun env name => do
    return env.assign name ((← IO.getEnv name).map Text.Utf8.encode)) Environment.empty

def cause : IO.Error → String
  | .noFileOrDirectory .. => Files.Cause.notFound.message
  | .inappropriateType .. => Files.Cause.isDirectory.message
  | .alreadyExists .. => Files.Cause.present.message
  | .permissionDenied .. => Launch.Obstacle.denied.message
  | e => toString e

def attempt {α : Type} (act : IO α) : IO (Except String α) := do
  try
    return .ok (← act)
  catch e =>
    return .error (cause e)

def system : IO (System IO) := do
  let here ← IO.currentDir
  let exe ← IO.appPath
  let ofPath (p : Path) := here / p.display
  return {
    env := ← environment
    account := none
    exeDir := exe.parent.map fun d => .ofText d.toString
    cwd := some (.ofText here.toString)
    holds := fun p => (ofPath p).pathExists
    isFile := fun p => do return (← (ofPath p).pathExists) && !(← (ofPath p).isDir)
    read := fun p => attempt (return (← IO.FS.readBinFile (ofPath p)).toList)
    makeDirectories := fun p => attempt (IO.FS.createDirAll (ofPath p))
    write := fun p bytes => attempt (IO.FS.writeBinFile (ofPath p) ⟨bytes.toArray⟩)
    hold := fun s => return s.holdNowhere }

end MissionWorker.Main

def main (args : List String) : IO UInt32 := do
  let outcome ← MissionWorker.CommandLine.run (← MissionWorker.Main.system) args
  (← IO.getStdout).putStr outcome.out
  (← IO.getStderr).putStr outcome.err
  return outcome.code.toUInt32
