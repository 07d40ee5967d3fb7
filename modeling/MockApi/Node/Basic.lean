import MockApi.Json.Source

/-! # Nodes of documents

The common shape of documents read from JSON and from YAML: a tree of nodes. Maps keep every entry
as written, duplicates included. A plain YAML scalar keeps its text, because what it means depends
on what is read from it: the text `5` is a string where a string is asked for and a number
elsewhere.

Nesting is bounded: a container below the permitted depth is an error as soon as it is looked at,
and so is a number that no double can hold. Values that nobody asks for are never looked at.
-/

namespace MockApi

namespace Node

/-- How a YAML scalar is written. -/
inductive Style where
  | plain
  | literal
  | quoted
deriving DecidableEq, Repr

end Node

/-- A node with all that is below it. `unreadable` is an error for whoever looks at it; `alias`
stands for the node with that number among the anchored ones. -/
inductive Node where
  | null
  | bool (value : Bool)
  | number (value : Json.Number)
  | text (value : String)
  | scalar (style : Node.Style) (tag : Option String) (written : String)
  | list (tag : Option String) (items : List Node)
  | map (tag : Option String) (entries : List (Node × Node))
  | alias (anchor : Nat)
  | unreadable
deriving Inhabited

namespace Node

/-- A document: its root, the anchored nodes and the permitted nesting. -/
structure Document where
  root : Node
  anchors : Array Node := #[]
  depth : Nat

/-- Containers nested deeper than this are refused in JSON. -/
def jsonDepth : Nat := 127

/-- Containers nested deeper than this are refused in YAML. -/
def yamlDepth : Nat := 128

mutual

/-- The node of a JSON text. -/
def ofSource : Json.Source → Node
  | .null _ => .null
  | .bool _ b => .bool b
  | .number _ n => match n with
    | some n => .number n
    | none => .unreadable
  | .string _ s => match s with
    | .ok s => .text s
    | .error _ => .unreadable
  | .list _ _ items _ => .list none (ofSources items)
  | .object _ _ members _ => .map none (ofMembers members)
  | .broken => .unreadable

/-- The nodes of items. -/
def ofSources : List Json.Source → List Node
  | [] => []
  | x :: rest => ofSource x :: ofSources rest

/-- The entries of members. -/
def ofMembers : List ((Json.Mark × Json.Spelling) × Json.Source) → List (Node × Node)
  | [] => []
  | ((_, key), x) :: rest =>
    ((match key with | .ok s => .text s | .error _ => .unreadable), ofSource x) :: ofMembers rest

end

mutual

/-- The node of a JSON value. -/
def ofJson : Json → Node
  | .null => .null
  | .bool b => .bool b
  | .number n => .number n
  | .string s => .text s
  | .array items => .list none (ofItems items)
  | .object members => .map none (ofPairs members)

/-- The nodes of items. -/
def ofItems : List Json → List Node
  | [] => []
  | x :: rest => ofJson x :: ofItems rest

/-- The entries of members. -/
def ofPairs : List (String × Json) → List (Node × Node)
  | [] => []
  | (key, x) :: rest => (.text key, ofJson x) :: ofPairs rest

end

/-- The document of a JSON text, unless the text has a fault. -/
def readJson (s : String) : Except Json.Fault Document :=
  match Json.Source.read s with
  | (_, some f) => .error f
  | (source, none) => .ok ⟨ofSource source, #[], jsonDepth⟩

/-- The document of a JSON value, as deep as need be. -/
def document (x : Json) : Document := ⟨ofJson x, #[], jsonDepth⟩

end Node

end MockApi
