import MockApi.Yaml.Lexer

/-! # From tokens to nodes

A stream holds one document. Aliases refer to anchored nodes by number: the number of different
names seen before the anchor. Naming a node again under a name already taken gives it the number
that the next new name will get too, and of the nodes with one number the last to start keeps it.

The grammar calls itself at most three times for a token, which bounds the nesting of calls.
-/

namespace MockApi.Yaml

/-- An anchored node and the order in which it started. -/
structure Anchored where
  start : Nat
  node : Node

/-- What the reader of tokens knows. -/
structure Reading where
  tokens : List Token
  /-- The prefixes that tag handles stand for. -/
  handles : Entries String
  names : Entries Nat := []
  anchored : Array Anchored := #[]
  started : Nat := 0

namespace Reading

/-- Reading either goes on or has failed. -/
abbrev Step := StateT Reading Option

/-- The token ahead. -/
def peek : Step Token := do
  match (← get).tokens with
  | t :: _ => pure t
  | [] => failure

/-- Passes a token. -/
def skip : Step Unit := modify fun r => { r with tokens := r.tokens.drop 1 }

/-- Passes the token ahead when it is the given one. -/
def accept (t : Token) : Step Bool := do
  if (← peek) == t then
    skip
    pure true
  else pure false

/-- A scalar that is not written. -/
def blank (tag : Option String) : Node := .scalar .plain tag ""

/-- The number of an anchor that starts here, and the count that tells it from later ones. -/
def openAnchor (name : Option String) : Step (Option (Nat × Nat)) := do
  match name with
  | none => pure none
  | some name =>
    let r ← get
    let number := r.names.length
    let entry : Anchored := ⟨r.started, .unreadable⟩
    set { r with
      names := r.names.insert name number
      anchored := if number < r.anchored.size then r.anchored.set! number entry
        else r.anchored.push entry
      started := r.started + 1 }
    pure (some (number, r.started))

/-- Fills in the node of an anchor, unless a later one has taken its number. -/
def closeAnchor (opened : Option (Nat × Nat)) (t : Node) : Step Node := do
  match opened with
  | none => pure t
  | some (number, start) =>
    modify fun r =>
      match r.anchored[number]? with
      | some a => if a.start = start then
          { r with anchored := r.anchored.set! number ⟨start, t⟩ } else r
      | none => r
    pure t

/-- The full tag of a handle and a suffix. -/
def fullTag (handle suffix : String) : Step String := do
  if handle.isEmpty then pure suffix
  else match (← get).handles.find? handle with
    | some uri => pure (uri ++ suffix)
    | none => failure

/-- The anchor and the tag before a node, in either order. -/
def properties : Step (Option String × Option String) := do
  match ← peek with
  | .anchor name =>
    skip
    match ← peek with
    | .tag handle suffix =>
      skip
      pure (some name, some (← fullTag handle suffix))
    | _ => pure (some name, none)
  | .tag handle suffix =>
    skip
    match ← peek with
    | .anchor name =>
      skip
      pure (some name, some (← fullTag handle suffix))
    | _ => pure (none, some (← fullTag handle suffix))
  | _ => pure (none, none)

/-- True of the tokens that end an entry of a block map. -/
def endsMapEntry (t : Token) : Bool := t == .key || t == .value || t == .blockEnd

mutual

/-- A node. `block` permits block collections, `indentless` a list at the indentation of its key. -/
def node (block indentless : Bool) : Nat → Step Node
  | 0 => failure
  | fuel + 1 => do
    match ← peek with
    | .alias name =>
      skip
      match (← get).names.find? name with
      | some number => pure (.alias number)
      | none => failure
    | _ =>
      let (name, tag) ← properties
      let opened ← openAnchor name
      match ← peek with
      | .scalar style text =>
        skip
        closeAnchor opened (.scalar style (tag.filter (· != "!")) text)
      | .blockEntry =>
        if indentless then
          closeAnchor opened (.list tag (← indentlessItems fuel))
        else bare name tag opened
      | .flowListStart =>
        skip
        closeAnchor opened (.list tag (← flowItems true fuel))
      | .flowMapStart =>
        skip
        closeAnchor opened (.map tag (← flowEntries true fuel))
      | .blockListStart =>
        if block then
          skip
          closeAnchor opened (.list tag (← blockItems fuel))
        else bare name tag opened
      | .blockMapStart =>
        if block then
          skip
          closeAnchor opened (.map tag (← blockEntries fuel))
        else bare name tag opened
      | _ => bare name tag opened
where
  /-- A node of which only the anchor or the tag is written. -/
  bare (name tag : Option String) (opened : Option (Nat × Nat)) : Step Node :=
    if name.isSome || tag.isSome then closeAnchor opened (blank tag) else failure

/-- The items of a block list. -/
def blockItems : Nat → Step (List Node)
  | 0 => failure
  | fuel + 1 => do
    if ← accept .blockEnd then pure []
    else if ← accept .blockEntry then
      let t ← peek
      let item ← if t == .blockEntry || t == .blockEnd then pure (blank none)
        else node true false fuel
      return item :: (← blockItems fuel)
    else failure

/-- The items of a list at the indentation of its key. -/
def indentlessItems : Nat → Step (List Node)
  | 0 => failure
  | fuel + 1 => do
    if ← accept .blockEntry then
      let t ← peek
      let item ← if t == .blockEntry || endsMapEntry t then pure (blank none)
        else node true false fuel
      return item :: (← indentlessItems fuel)
    else pure []

/-- The entries of a block map. -/
def blockEntries : Nat → Step (List (Node × Node))
  | 0 => failure
  | fuel + 1 => do
    if ← accept .blockEnd then pure []
    else if ← accept .key then
      let key ← if endsMapEntry (← peek) then pure (blank none) else node true true fuel
      let value ← if ← accept .value then
          if endsMapEntry (← peek) then pure (blank none) else node true true fuel
        else pure (blank none)
      return (key, value) :: (← blockEntries fuel)
    else failure

/-- The items of a bracketed list. A pair among them is a map of its own. -/
def flowItems (first : Bool) : Nat → Step (List Node)
  | 0 => failure
  | fuel + 1 => do
    if ← accept .flowListEnd then pure []
    else
      if !first && !(← accept .flowEntry) then failure
      if ← accept .flowListEnd then pure []
      else
        let item ← if ← accept .key then
            let t ← peek
            let key ← if t == .value || t == .flowEntry || t == .flowListEnd then
                skip
                pure (blank none)
              else node false false fuel
            let value ← if ← accept .value then
                let t ← peek
                if t == .flowEntry || t == .flowListEnd then pure (blank none)
                else node false false fuel
              else pure (blank none)
            pure (.map none [(key, value)])
          else node false false fuel
        return item :: (← flowItems false fuel)

/-- The entries of a braced map. -/
def flowEntries (first : Bool) : Nat → Step (List (Node × Node))
  | 0 => failure
  | fuel + 1 => do
    if ← accept .flowMapEnd then pure []
    else
      if !first && !(← accept .flowEntry) then failure
      if ← accept .flowMapEnd then pure []
      else if ← accept .key then
        let t ← peek
        let key ← if t == .value || t == .flowEntry || t == .flowMapEnd then pure (blank none)
          else node false false fuel
        let value ← if ← accept .value then
            let t ← peek
            if t == .flowEntry || t == .flowMapEnd then pure (blank none)
            else node false false fuel
          else pure (blank none)
        return (key, value) :: (← flowEntries false fuel)
      else
        let key ← node false false fuel
        return (key, blank none) :: (← flowEntries false fuel)

end

/-- The directives before a document. A version or a handle may be given once. -/
def directives : Nat → Bool → Entries String → Step (Entries String)
  | 0, _, _ => failure
  | fuel + 1, versioned, handles => do
    match ← peek with
    | .version _ =>
      if versioned then failure
      skip
      directives fuel true handles
    | .tagHandle handle uri =>
      if handles.has handle then failure
      skip
      directives fuel versioned (handles.insert handle uri)
    | _ => pure handles

/-- The handles that stand for prefixes without a directive. -/
def standardHandles : Entries String := [("!", "!"), ("!!", "tag:yaml.org,2002:")]

/-- The root of the only document of a stream; an empty stream holds an empty scalar. -/
def document (fuel : Nat) : Step Node := do
  let root ← match ← peek with
    | .streamEnd => pure (blank none)
    | .version _ | .tagHandle _ _ | .documentStart =>
      let given ← directives fuel false []
      modify fun r => { r with
        handles := standardHandles.filter (fun h => !given.has h.1) ++ given }
      if !(← accept .documentStart) then failure
      match ← peek with
      | .version _ | .tagHandle _ _ | .documentStart | .documentEnd | .streamEnd =>
        pure (blank none)
      | _ => node true false fuel
    | _ => node true false fuel
  modify fun r => { r with tokens := r.tokens.dropWhile (· == .documentEnd) }
  if (← peek) == .streamEnd then pure root else failure

end Reading

/-- The document of a YAML text. -/
def read? (s : String) : Option Node.Document := do
  let tokens ← tokens? s
  let start : Reading := { tokens := tokens.toList, handles := Reading.standardHandles }
  let (root, finish) ← (Reading.document (3 * tokens.size + 10)).run start
  return ⟨root, finish.anchored.map Anchored.node, Node.yamlDepth⟩

end MockApi.Yaml
