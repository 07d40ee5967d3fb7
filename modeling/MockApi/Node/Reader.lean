import MockApi.Node.Basic
import MockApi.Yaml.Scalar

/-! # Reading values out of nodes

A reader asks a node for a kind of value and gets nothing when the node has none of that kind. The
number that readers of containers take first bounds the nesting: each container uses up one.

A record is read from a map, whose known keys must not repeat and whose other keys are passed over
unseen, or from a list that gives the fields in their declared order.
-/

namespace MockApi.Node

/-- The anchored nodes of a document. -/
abbrev Anchors := Array Node

/-- The node that an alias stands for; any other node is itself. -/
def view (anchors : Anchors) : Node → Node
  | .alias n => anchors.getD n .unreadable
  | t => t

/-- A plain scalar, or a block scalar that carries the tag. -/
def isLiteral (expected : String) (style : Style) (tag : Option String) : Bool :=
  style == .plain || (style == .literal && tag == some expected)

/-- The tag of a core schema type. -/
def coreTag (name : String) : String := "tag:yaml.org,2002:" ++ name

/-- A tag of the document's own, such as `!thing`. -/
def isLocalTag (tag : Option String) : Bool :=
  match tag with
  | some t => 1 < t.length && t.toList.head? == some '!'
  | none => false

/-- A string; a YAML scalar is taken as it is written. -/
def text? (anchors : Anchors) (t : Node) : Option String :=
  match view anchors t with
  | .text s => some s
  | .scalar _ _ s => some s
  | _ => none

/-- A boolean. -/
def bool? (anchors : Anchors) (t : Node) : Option Bool :=
  match view anchors t with
  | .bool b => some b
  | .scalar style tag s =>
    if isLiteral (coreTag "bool") style tag then Yaml.Scalar.bool? s else none
  | _ => none

/-- An unsigned 64 bit integer. -/
def nat64? (anchors : Anchors) (t : Node) : Option Nat :=
  match view anchors t with
  | .number (.integer i) => if 0 ≤ i then some i.toNat else none
  | .scalar style tag s =>
    if isLiteral (coreTag "int") style tag then Yaml.Scalar.natural? (twoTo 64) s.toList else none
  | _ => none

/-- A double. -/
def float? (anchors : Anchors) (t : Node) : Option Float :=
  match view anchors t with
  | .number n => some n.toFloat
  | .scalar style tag s =>
    if isLiteral (coreTag "float") style tag then Yaml.Scalar.double? s else none
  | _ => none

/-- True of the nodes that stand for an absent optional value. -/
def isAbsent (anchors : Anchors) (t : Node) : Bool :=
  match view anchors t with
  | .null => true
  | .scalar .plain none s => s.isEmpty || Yaml.Scalar.isNullWord s
  | .scalar .plain (some tag) s => tag == coreTag "null" && Yaml.Scalar.isNullWord s
  | _ => false

/-- An optional value: nothing, or what the reader finds. -/
def optional? {α : Type} (anchors : Anchors) (read : Node → Option α) (t : Node) :
    Option (Option α) :=
  if isAbsent anchors t then some none else (read t).map some

/-- True of the empty plain scalar, which counts as an empty container. -/
def isVoid : Node → Bool
  | .scalar .plain _ s => s.isEmpty
  | _ => false

/-- Reads every item of a list. -/
def list? {α : Type} (anchors : Anchors) (depth : Nat) (read : Nat → Node → Option α) (t : Node) :
    Option (List α) :=
  match view anchors t, depth with
  | .list _ items, depth + 1 => items.mapM (read depth)
  | t, _ => if isVoid t then some [] else none

/-- Reads a map from strings; later values win and keep the earlier place. -/
def entries? {α : Type} (anchors : Anchors) (depth : Nat) (read : Nat → Node → Option α)
    (t : Node) : Option (Entries α) :=
  match view anchors t, depth with
  | .map _ entries, depth + 1 =>
    (entries.mapM fun (e : Node × Node) => do
      return (← text? anchors e.1, ← read depth e.2)).map Entries.ofList
  | t, _ => if isVoid t then some [] else none

/-- A declared field of a record. -/
structure Field where
  name : String
  /-- Whether a list of fields may end before this one. -/
  omissible : Bool

/-- The field that a key names: by its name, or, for an integer key, by its place. Other kinds of
keys are refused. -/
def fieldOf? (anchors : Anchors) (fields : List Field) (key : Node) : Option (Option Nat) :=
  match view anchors key with
  | .number (.integer i) =>
    some (if 0 ≤ i ∧ i < fields.length then some i.toNat else none)
  | key => (text? anchors key).map fun s => fields.findIdx? fun f => f.name == s

/-- Puts the values of known keys into their places and refuses a second value for a place. -/
def collect (anchors : Anchors) (fields : List Field) :
    List (Node × Node) → List (Option Node) → Option (List (Option Node))
  | [], found => some found
  | (key, value) :: rest, found =>
    match fieldOf? anchors fields key with
    | none => none
    | some none => collect anchors fields rest found
    | some (some i) =>
      if (found.getD i none).isSome then none
      else collect anchors fields rest (found.set i (some value))

/-- Matches a list with the fields in order. -/
def align : List Field → List Node → Option (List (Option Node))
  | [], [] => some []
  | [], _ :: _ => none
  | f :: fields, [] => if f.omissible then (align fields []).map (none :: ·) else none
  | _ :: fields, t :: rest => (align fields rest).map (some t :: ·)

/-- The values of a record's fields, in declared order, and the nesting left for them. -/
def record? (anchors : Anchors) (fields : List Field) (depth : Nat) (t : Node) :
    Option (Nat × List (Option Node)) :=
  match view anchors t, depth with
  | .map _ entries, depth + 1 =>
    (collect anchors fields entries (fields.map fun _ => none)).map (depth, ·)
  | .list _ items, depth + 1 => (align fields items).map (depth, ·)
  | t, depth => if isVoid t then some (depth, fields.map fun _ => none) else none

/-- A field that must be present. -/
def required? {α : Type} (read : Node → Option α) : Option Node → Option α
  | some t => read t
  | none => none

/-- A field that has a default. -/
def defaulted? {α : Type} (fallback : α) (read : Node → Option α) : Option Node → Option α
  | some t => read t
  | none => some fallback

/-- A field that may be absent or null. -/
def maybe? {α : Type} (anchors : Anchors) (read : Node → Option α) (t : Option Node) :
    Option (Option α) :=
  defaulted? none (optional? anchors read) t

/-- The value of a YAML scalar where no kind is asked for. -/
def resolveScalar (style : Style) (tag : Option String) (s : String) : Option Node :=
  let ofMeaning (x : Yaml.Scalar) : Option Node :=
    match x with
    | .null => some .null
    | .bool b => some (.bool b)
    | .integer i => some (.number (.integer i))
    | .wideInteger => none
    | .double x => some (.number (.double x))
    | .text => some (.text s)
  match tag with
  | none => if style == .plain then ofMeaning (Yaml.Scalar.ofPlain s) else some (.text s)
  | some tag =>
    if tag == coreTag "bool" then (Yaml.Scalar.bool? s).map .bool
    else if tag == coreTag "int" then
      match Yaml.Scalar.ofPlain s with
      | .integer i => some (.number (.integer i))
      | _ => none
    else if tag == coreTag "float" then
      (Yaml.Scalar.double? s).map fun x => .number (.double x)
    else if tag == coreTag "null" then if Yaml.Scalar.isNullWord s then some .null else none
    else if isLocalTag (some tag) then none
    else some (.text s)

/-- The node with every scalar resolved and every alias followed. -/
def settle? (anchors : Anchors) : Nat → Node → Option Node
  | depth, t =>
    match view anchors t, depth with
    | .null, _ => some .null
    | .bool b, _ => some (.bool b)
    | .number n, _ => some (.number n)
    | .text s, _ => some (.text s)
    | .scalar style tag s, _ => resolveScalar style tag s
    | .list tag items, depth + 1 =>
      if isLocalTag tag then none else (items.mapM (settle? anchors depth)).map (.list none)
    | .map tag entries, depth + 1 =>
      if isLocalTag tag then none
      else (entries.mapM fun (e : Node × Node) => do
        return (← settle? anchors depth e.1, ← settle? anchors depth e.2)).map (.map none)
    | _, _ => none

/-- Any value as JSON. -/
def json? (anchors : Anchors) : Nat → Node → Option Json
  | depth, t =>
    match view anchors t, depth with
    | .null, _ => some .null
    | .bool b, _ => some (.bool b)
    | .number (.integer i), _ => some (.number (.integer i))
    | .number (.double x), _ => some (Json.ofFloat x)
    | .text s, _ => some (.string s)
    | .scalar style tag s, _ =>
      match resolveScalar style tag s with
      | some .null => some .null
      | some (.bool b) => some (.bool b)
      | some (.number (.integer i)) => some (.number (.integer i))
      | some (.number (.double x)) => some (Json.ofFloat x)
      | some (.text s) => some (.string s)
      | _ => none
    | .list tag items, depth + 1 =>
      if isLocalTag tag then none else (items.mapM (json? anchors depth)).map .array
    | .map tag entries, depth + 1 =>
      if isLocalTag tag then none
      else (entries.mapM fun (e : Node × Node) => do
        return (← text? anchors e.1, ← json? anchors depth e.2)).map Json.ofMembers
    | _, _ => none

end MockApi.Node
