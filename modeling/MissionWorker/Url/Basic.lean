import MissionWorker.Url.Host

namespace MissionWorker

/-- What a scheme means for the reading of a URL: special schemes lead to a host, with a usual port;
of the special ones only files may do without a host. -/
inductive Url.Kind where
  | special (port : Nat)
  | file
  | plain
  deriving DecidableEq

namespace Url

def Kind.ofScheme (scheme : List Char) : Kind :=
  if scheme ∈ ["http".toList, "ws".toList] then .special 80
  else if scheme ∈ ["https".toList, "wss".toList] then .special 443
  else if scheme = "ftp".toList then .special 21
  else if scheme = "file".toList then .file
  else .plain

def Kind.isSpecial : Kind → Bool
  | .plain => false
  | .special _ | .file => true

structure Authority where
  user : List Char := []
  password : List Char := []
  host : Host := .name []
  port : Option Nat := none
  deriving DecidableEq

namespace Authority

def credentials (a : Authority) : List Char :=
  a.user ++ if a.password = [] then [] else ':' :: a.password

def display (a : Authority) : List Char :=
  (if a.credentials = [] then [] else a.credentials ++ ['@']) ++ a.host.display ++
    match a.port with
    | some n => ':' :: (toString n).toList
    | none => []

end Authority

inductive Path where
  | steps (ss : List (List Char))
  | solid (text : List Char)
  deriving DecidableEq

def Path.toSteps : Path → List (List Char)
  | .steps ss => ss
  | .solid _ => []

def Path.display : Path → List Char
  | .steps ss => ss.flatMap ('/' :: ·)
  | .solid text => text

end Url

structure Url where
  scheme : List Char
  authority : Option Url.Authority
  path : Url.Path
  query : Option (List Char) := none
  fragment : Option (List Char) := none
  deriving DecidableEq

namespace Url

def kind (u : Url) : Kind := .ofScheme u.scheme

/-- A dot before a path that begins with two slashes and follows no host: they do not announce one. -/
def guard (u : Url) : List Char :=
  match u.authority, u.path with
  | none, .steps ([] :: _ :: _) => ['/', '.']
  | _, _ => []

def announced (mark : Char) : Option (List Char) → List Char
  | some cs => mark :: cs
  | none => []

def display (u : Url) : String :=
  String.ofList <| u.scheme ++ [':'] ++
    (match u.authority with
      | some a => ['/', '/'] ++ a.display
      | none => []) ++
    u.guard ++ u.path.display ++ announced '?' u.query ++ announced '#' u.fragment

end Url
end MissionWorker
