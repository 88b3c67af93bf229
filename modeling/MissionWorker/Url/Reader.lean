import MissionWorker.Url.Basic

namespace MissionWorker.Url

def cleaned (s : String) : List Char :=
  let isEdge (c : Char) : Bool := c.toNat ≤ 0x20
  let inner := ((s.toList.dropWhile isEdge).reverse.dropWhile isEdge).reverse
  inner.filter (· ∉ ['\t', '\n', '\r'])

def isLetter (c : Char) : Bool := ('a' ≤ c && c ≤ 'z') || ('A' ≤ c && c ≤ 'Z')

def schemeTail? : List Char → Option (List Char × List Char)
  | [] => none
  | ':' :: rest => some ([], rest)
  | c :: rest =>
    if isLetter c || c.isDigit || c ∈ ['+', '-', '.'] then
      (schemeTail? rest).map fun (cs, rest) => (c.toLower :: cs, rest)
    else none

def scheme? : List Char → Option (List Char × List Char)
  | c :: rest => if isLetter c then schemeTail? (c :: rest) else none
  | [] => none

def isSlash (c : Char) : Bool := c = '/' || c = '\\'

/-- Whether a character separates steps; in a special URL a backslash is as good as a slash. -/
def separates (k : Kind) (c : Char) : Bool := c = '/' || (c = '\\' && k.isSpecial)

def announces (c : Char) : Bool := c = '?' || c = '#'

def endsAuthority (k : Kind) (c : Char) : Bool := separates k c || announces c

/-- User and password, which the last at sign before the end of the authority ends. -/
def readCredentials (k : Kind) (cs : List Char) : Except Error (Authority × List Char) :=
  let inside := cs.takeWhile (!endsAuthority k ·)
  if inside.contains '@' then
    let after := inside.reverse.takeWhile (· != '@')
    let given := inside.take (inside.length - after.length - 1)
    let rest := cs.drop (given.length + 1)
    if given = [] then
      if rest.head?.any (endsAuthority k) then .error .emptyHost else .ok ({}, rest)
    else
      let encode := Percent.encode Percent.isEscapedInCredentials
      .ok ({
        user := encode (given.takeWhile (· != ':'))
        password := encode ((given.dropWhile (· != ':')).drop 1) }, rest)
  else .ok ({}, cs)

def splitHost (k : Kind) : (bracketed : Bool) → List Char → List Char × List Char
  | _, [] => ([], [])
  | bracketed, c :: rest =>
    if endsAuthority k c || (c = ':' && !bracketed) then ([], c :: rest)
    else
      let (host, rest) := splitHost k (c = '[' || (bracketed && c != ']')) rest
      (c :: host, rest)

def readHost (k : Kind) (cs : List Char) : Except Error (Host × List Char) :=
  let (text, rest) := splitHost k false cs
  match k with
  | .plain => (Host.readPlain text).map (·, rest)
  | _ => if text = [] then .error .emptyHost else (Host.readSpecial text).map (·, rest)

def readPort (k : Kind) : List Char → Except Error (Option Nat × List Char)
  | ':' :: cs =>
    let ds := cs.takeWhile Char.isDigit
    let rest := cs.dropWhile Char.isDigit
    let n := ds.foldl (fun n c => n * 10 + (c.toNat - '0'.toNat)) 0
    if 65535 < n || rest.head?.any (fun c => !isSlash c && !announces c) then .error .badPort
    else .ok (if ds = [] || k = .special n then none else some n, rest)
  | cs => .ok (none, cs)

def readAuthority (k : Kind) (cs : List Char) : Except Error (Authority × List Char) := do
  let (a, cs) ← readCredentials k cs
  let (host, cs) ← readHost k cs
  if host = .name [] && cs.head? = some ':' then throw .emptyHost
  let (port, cs) ← readPort k cs
  if host = .name [] && a.credentials ≠ [] then throw .emptyHost
  return ({ a with host, port }, cs)

def withPoints : List Char → List Char
  | '%' :: '2' :: 'e' :: rest | '%' :: '2' :: 'E' :: rest => '.' :: withPoints rest
  | c :: rest => c :: withPoints rest
  | [] => []

def isDrive : List Char → Bool
  | [c, ':'] | [c, '|'] => isLetter c
  | _ => false

def up (steps : List (List Char)) : List (List Char) :=
  if steps.getLast?.any isDrive then steps else steps.dropLast

def kept (k : Kind) (before : List (List Char)) (step : List Char) : List Char :=
  match k, before, Percent.encode Percent.isEscapedInPath step with
  | .file, [], [c, '|'] => if isLetter c then [c, ':'] else [c, '|']
  | _, _, step => step

/-- Follows steps from where others have led. After dots at the end comes an empty step. -/
def follow (k : Kind) (before : List (List Char)) : List (List Char) → List (List Char)
  | [] => before
  | step :: rest =>
    let dots := withPoints step
    let next :=
      if dots = ['.', '.'] then up before ++ if rest = [] then [[]] else []
      else if dots = ['.'] then before ++ if rest = [] then [[]] else []
      else before ++ [kept k before step]
    follow k next rest

def pieces (k : Kind) : List Char → List (List Char)
  | [] => [[]]
  | c :: rest =>
    if separates k c then [] :: pieces k rest
    else match pieces k rest with
      | [] => [[c]]
      | piece :: more => (c :: piece) :: more

def withoutLeadingBlanks : List (List Char) → List (List Char)
  | [] :: next :: rest => withoutLeadingBlanks (next :: rest)
  | steps => steps

def readSteps (k : Kind) (before : List (List Char)) (cs : List Char) : List (List Char) × List Char :=
  let steps := follow k before (pieces k (cs.takeWhile (!announces ·)))
  (if k = .file then withoutLeadingBlanks steps else steps, cs.dropWhile (!announces ·))

def afterSlash (k : Kind) : List Char → List Char
  | c :: rest => if separates k c then rest else c :: rest
  | [] => []

def finish (u : Url) (rest : List Char) : Url :=
  let ofFragment := Percent.encode Percent.isEscapedInFragment
  let ofQuery :=
    Percent.encode (if u.kind.isSpecial then Percent.isEscapedInSpecialQuery else Percent.isEscapedInQuery)
  match rest with
  | '?' :: cs =>
    { u with
      query := some (ofQuery (cs.takeWhile (· != '#')))
      fragment := match cs.dropWhile (· != '#') with
        | _ :: f => some (ofFragment f)
        | [] => none }
  | '#' :: f => { u with fragment := some (ofFragment f) }
  | _ => u

def readAfterSlashes (scheme : List Char) (cs : List Char) : Except Error Url := do
  let k := Kind.ofScheme scheme
  let (authority, cs) ← readAuthority k cs
  if !k.isSpecial && cs.head?.all announces then
    return ({ scheme, authority, path := .steps [] } : Url).finish cs
  let (steps, cs) := readSteps k [] (afterSlash k cs)
  return ({ scheme, authority, path := .steps steps } : Url).finish cs

/-- What a text without steps of its own leaves as it is in the base: nothing, a query or a fragment
takes the place of what the base has. -/
def lent (base : Url) (cs : List Char) : Url :=
  let u := { base with fragment := none }
  if cs.head? = some '?' then ({ u with query := none } : Url).finish cs else u.finish cs

def readBeside (base : Url) (cs : List Char) : Except Error Url :=
  let k := base.kind
  let build (before : List (List Char)) (cs : List Char) : Url :=
    let (steps, rest) := readSteps k before cs
    ({ base with path := .steps steps, query := none, fragment := none } : Url).finish rest
  match cs with
  | [] => .ok (base.lent cs)
  | c :: rest =>
    if announces c then .ok (base.lent cs)
    else if isSlash c then
      if rest.head?.any isSlash then
        let exact := c = '/' && rest.head? = some '/'
        readAfterSlashes base.scheme (if exact then rest.drop 1 else cs.dropWhile isSlash)
      else .ok (build [] rest)
    else .ok (build base.path.toSteps.dropLast cs)

def readFileHost (cs : List Char) : Except Error (Host × List Char) :=
  let text := cs.takeWhile fun c => !isSlash c && !announces c
  if isDrive text || text = [] then .ok (.name [], cs)
  else do
    let host ← Host.readSpecial text
    return (if host = .name "localhost".toList then .name [] else host, cs.drop text.length)

def buildFile (host : Host) (before : List (List Char)) (cs : List Char) : Url :=
  let (steps, rest) := readSteps .file before cs
  let host := if steps.head?.any isDrive then .name [] else host
  ({ scheme := "file".toList, authority := some { host }, path := .steps steps } : Url).finish rest

def readFile (base : Option Url) (cs : List Char) : Except Error Url :=
  let hostOf (u : Url) : Host := (u.authority.map Authority.host).getD (.name [])
  let beginsWithDrive (cs : List Char) : Bool :=
    isDrive (cs.takeWhile fun c => !isSlash c && !announces c)
  match cs with
  | [] => .ok (base.elim (buildFile (.name []) [] []) (·.lent []))
  | c :: rest =>
    if isSlash c then
      if rest.head?.any isSlash then do
        let (host, rest) ← readFileHost (rest.drop 1)
        return buildFile host [] (afterSlash .file rest)
      else
        match base with
        | some b =>
          if beginsWithDrive rest then .ok (buildFile (.name []) [] rest)
          else if b.path.toSteps.head?.any isDrive then
            .ok (buildFile (.name []) (b.path.toSteps.take 1) rest)
          else .ok (buildFile (hostOf b) [] rest)
        | none => .ok (buildFile (.name []) [] rest)
    else
      match base with
      | some b =>
        if announces c then .ok (b.lent cs)
        else if beginsWithDrive cs then .ok (buildFile (.name []) [] cs)
        else .ok (buildFile (hostOf b) b.path.toSteps.dropLast cs)
      | none => .ok (buildFile (.name []) [] cs)

def readAfterScheme (base : Option Url) (scheme : List Char) (cs : List Char) : Except Error Url :=
  match Kind.ofScheme scheme with
  | .file => readFile (base.filter (·.scheme = scheme)) cs
  | .special _ =>
    match base.filter (·.scheme = scheme), cs with
    | some b, '/' :: '/' :: _ | some b, '/' :: '\\' :: _ | some b, '\\' :: '/' :: _
    | some b, '\\' :: '\\' :: _ => readAfterSlashes b.scheme (cs.dropWhile isSlash)
    | some b, cs => readBeside b cs
    | none, cs => readAfterSlashes scheme (cs.dropWhile isSlash)
  | .plain =>
    match cs with
    | '/' :: '/' :: rest => readAfterSlashes scheme rest
    | '/' :: rest =>
      let (steps, rest) := readSteps .plain [] rest
      .ok (({ scheme, authority := none, path := .steps steps } : Url).finish rest)
    | cs =>
      let text := Percent.encode Percent.isForeign (cs.takeWhile (!announces ·))
      .ok (({ scheme, authority := none, path := .solid text } : Url).finish
        (cs.dropWhile (!announces ·)))

def readCleaned (base : Option Url) (cs : List Char) : Except Error Url :=
  match scheme? cs with
  | some (scheme, rest) => readAfterScheme base scheme rest
  | none =>
    match base with
    | none => .error .noBase
    | some b =>
      if cs.head? = some '#' then .ok (b.lent cs)
      else match b.path with
        | .solid _ => .error .solidBase
        | .steps _ => if b.kind = .file then readFile base cs else readBeside b cs

def read (s : String) : Except Error Url := readCleaned none (cleaned s)

def join (base : Url) (s : String) : Except Error Url := readCleaned (some base) (cleaned s)

end MissionWorker.Url
