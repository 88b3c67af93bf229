import MissionWorker.Yaml.Token

namespace MissionWorker.Yaml

inductive Node where
  | scalar (tag : Option String) (style : Style) (text : String)
  | sequence (items : List Node)
  | mapping (entries : List (Node × Node))
  | alias (number : Nat)

instance : Inhabited Node := ⟨.sequence []⟩

/-- A document: its root, if there is one, and the named nodes by number. A node may refer to one that
it is part of, so aliases stay in the tree. -/
structure Document where
  root : Option Node
  named : List (Nat × Node)

namespace Node

structure Reading where
  tokens : List Token
  names : List (List Char × Nat) := []
  named : List (Nat × Node) := []
  handles : List (List Char × List Char) := []

namespace Reading

def next (r : Reading) : Option Token := r.tokens.head?

def drop (r : Reading) : Reading := { r with tokens := r.tokens.drop 1 }

def sees (r : Reading) (t : Token) : Bool := r.next == some t

def expect? (t : Token) (r : Reading) : Option Reading := if r.sees t then some r.drop else none

def bind (name : List Char) (r : Reading) : Nat × Reading :=
  let number := r.names.length
  (number, { r with names := (name, number) :: r.names })

def resolve? (r : Reading) (handle rest : List Char) : Option String :=
  if handle = [] then some (String.ofList rest)
  else (r.handles.lookup handle).map fun stands => String.ofList (stands ++ rest)

end Reading

def absent (tag : Option String) : Node := .scalar tag .plain ""

def nothing : Node := absent none

def properties? (r : Reading) : Option (Option Nat × Option String × Reading) := do
  match r.next with
  | some (.anchor name) =>
    let (number, r) := r.drop.bind name
    match r.next with
    | some (.tag handle rest) => return (some number, some (← r.resolve? handle rest), r.drop)
    | _ => return (some number, none, r)
  | some (.tag handle rest) =>
    let tag ← r.resolve? handle rest
    match r.drop.next with
    | some (.anchor name) =>
      let (number, r) := r.drop.drop.bind name
      return (some number, some tag, r)
    | _ => return (none, some tag, r.drop)
  | _ => return (none, none, r)

def endsEntry (r : Reading) (ends : List Token) : Bool := ends.any r.sees

mutual

/-- A node. In a block it may be a block itself; `loose` lets items follow a key without further
indentation. -/
def node (block loose : Bool) : (fuel : Nat) → Reading → Option (Node × Reading)
  | 0, _ => none
  | fuel + 1, r =>
    match r.next with
    | some (.alias name) => (r.names.lookup name).map fun number => (.alias number, r.drop)
    | _ => do
      let (number, tag, r) ← properties? r
      let (n, r) ← content block loose (number.isSome || tag.isSome) tag fuel r
      match number with
      | some k => return (n, { r with named := (k, n) :: r.named })
      | none => return (n, r)

/-- A node after its properties, of which there were some if `marked`. -/
def content (block loose marked : Bool) (tag : Option String) :
    (fuel : Nat) → Reading → Option (Node × Reading)
  | 0, _ => none
  | fuel + 1, r =>
    match r.next with
    | some .blockEntry =>
      if loose then do
        let (xs, r) ← looseItems fuel r
        return (.sequence xs, r)
      else if marked then some (absent tag, r) else none
    | some (.scalar text style) =>
      some (.scalar (if tag = some "!" then none else tag) style (String.ofList text), r.drop)
    | some .flowSequence => do
      let (xs, r) ← flowItems true fuel r.drop
      return (.sequence xs, r)
    | some .flowMapping => do
      let (es, r) ← flowEntries true fuel r.drop
      return (.mapping es, r)
    | some .blockSequence =>
      if block then do
        let (xs, r) ← blockItems fuel r.drop
        return (.sequence xs, r)
      else if marked then some (absent tag, r) else none
    | some .blockMapping =>
      if block then do
        let (es, r) ← blockEntries fuel r.drop
        return (.mapping es, r)
      else if marked then some (absent tag, r) else none
    | _ => if marked then some (absent tag, r) else none

def nodeUnless (ends : List Token) (block loose : Bool) :
    (fuel : Nat) → Reading → Option (Node × Reading)
  | 0, _ => none
  | fuel + 1, r => if endsEntry r ends then some (nothing, r) else node block loose fuel r

def blockItems : (fuel : Nat) → Reading → Option (List Node × Reading)
  | 0, _ => none
  | fuel + 1, r =>
    if r.sees .blockEnd then some ([], r.drop)
    else do
      let r ← r.expect? .blockEntry
      let (x, r) ← nodeUnless [.blockEntry, .blockEnd] true false fuel r
      let (xs, r) ← blockItems fuel r
      return (x :: xs, r)

def looseItems : (fuel : Nat) → Reading → Option (List Node × Reading)
  | 0, _ => none
  | fuel + 1, r =>
    if r.sees .blockEntry then do
      let (x, r) ← nodeUnless [.blockEntry, .key, .value, .blockEnd] true false fuel r.drop
      let (xs, r) ← looseItems fuel r
      return (x :: xs, r)
    else some ([], r)

def blockEntries : (fuel : Nat) → Reading → Option (List (Node × Node) × Reading)
  | 0, _ => none
  | fuel + 1, r =>
    if r.sees .blockEnd then some ([], r.drop)
    else do
      let ends := [.key, .value, .blockEnd]
      let (k, r) ←
        if r.sees .key then nodeUnless ends true true fuel r.drop
        else if r.sees .value then some (nothing, r)
        else none
      let (v, r) ←
        if r.sees .value then nodeUnless ends true true fuel r.drop else some (nothing, r)
      let (es, r) ← blockEntries fuel r
      return ((k, v) :: es, r)

def flowItems (first : Bool) : (fuel : Nat) → Reading → Option (List Node × Reading)
  | 0, _ => none
  | fuel + 1, r =>
    if r.sees .flowSequenceEnd then some ([], r.drop)
    else do
      let r ← if first then some r else r.expect? .flowEntry
      if r.sees .flowSequenceEnd then return ([], r.drop)
      let (x, r) ←
        if r.sees .key then do
          let (e, r) ← flowPair fuel r.drop
          some (.mapping [e], r)
        else node false false fuel r
      let (xs, r) ← flowItems false fuel r
      return (x :: xs, r)

def flowPair : (fuel : Nat) → Reading → Option ((Node × Node) × Reading)
  | 0, _ => none
  | fuel + 1, r => do
    let (k, r) ←
      if endsEntry r [.value, .flowEntry, .flowSequenceEnd] then some (nothing, r.drop)
      else node false false fuel r
    let (v, r) ←
      if r.sees .value then nodeUnless [.flowEntry, .flowSequenceEnd] false false fuel r.drop
      else some (nothing, r)
    return ((k, v), r)

def flowEntries (first : Bool) : (fuel : Nat) → Reading → Option (List (Node × Node) × Reading)
  | 0, _ => none
  | fuel + 1, r =>
    if r.sees .flowMappingEnd then some ([], r.drop)
    else do
      let r ← if first then some r else r.expect? .flowEntry
      if r.sees .flowMappingEnd then return ([], r.drop)
      let (k, v, r) ←
        if r.sees .key then do
          let (k, r) ← nodeUnless [.value, .flowEntry, .flowMappingEnd] false false fuel r.drop
          let (v, r) ←
            if r.sees .value then nodeUnless [.flowEntry, .flowMappingEnd] false false fuel r.drop
            else some (nothing, r)
          some (k, v, r)
        else do
          let (k, r) ← node false false fuel r
          some (k, nothing, r)
      let (es, r) ← flowEntries false fuel r
      return ((k, v) :: es, r)

end

def ordinaryHandles : List (List Char × List Char) :=
  [("!".toList, "!".toList), ("!!".toList, "tag:yaml.org,2002:".toList)]

def directives? (version : Bool) (handles : List (List Char × List Char)) :
    List Token → Option (List (List Char × List Char) × List Token)
  | .version major minor :: rest =>
    if version || major ≠ 1 || (minor ≠ 1 && minor ≠ 2) then none
    else directives? true handles rest
  | .shorthand name stands :: rest =>
    if (handles.lookup name).isSome then none
    else directives? version (handles ++ [(name, stands)]) rest
  | rest => some (handles, rest)

def isOutside : Option Token → Bool
  | none | some (.version _ _) | some (.shorthand _ _) | some .documentStart
  | some .documentEnd => true
  | _ => false

def isFinished (tokens : List Token) : Bool := tokens.all (· == .documentEnd)

def ofTokens? (tokens : List Token) : Option Document := do
  if tokens = [] then return { root := none, named := [] }
  let (handles, rest) ← directives? false [] tokens
  let explicit := rest.head? == some .documentStart
  if rest.length < tokens.length && !explicit then none
  let r : Reading := {
    tokens := if explicit then rest.drop 1 else rest
    handles := handles ++ ordinaryHandles }
  let (root, r) ←
    if explicit && isOutside r.next then some (nothing, r)
    else node true false (4 * tokens.length + 4) r
  if isFinished r.tokens then return { root := some root, named := r.named } else none

end Node

def parse? (s : String) : Option Document := Token.scan? s >>= Node.ofTokens?

end MissionWorker.Yaml
