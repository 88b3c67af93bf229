namespace MissionWorker.Launch

inductive Error where
  | notFound (program : String)
  | spawn (program message : String)
  | unresolved (message : String)

def Error.display : Error → String
  | .notFound program => "Worker executable not found: " ++ program
  | .spawn program message => "Failed to spawn worker '" ++ program ++ "': " ++ message
  | .unresolved message => "Cannot resolve worker launch: " ++ message

end MissionWorker.Launch
