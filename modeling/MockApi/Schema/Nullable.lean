import MockApi.Schema.Basic

/-! # Paths of nullable properties

A depth-first walk collects the dot paths of nullable nodes, each path once, at its first discovery.
Branches and items add nothing to a path; references and circular markers end the walk, and
additional values are not entered.
-/

namespace MockApi.Schema

/-- The path of a property below a path. -/
def childPath (path name : String) : String := if path.isEmpty then name else path ++ "." ++ name

/-- Adds a path at the end, unless it was found before. -/
def notePath (found : List String) (path : String) : List String :=
  if path ∈ found then found else found ++ [path]

mutual

/-- Adds the paths met from a node on to those found before. -/
def collectNullable (path : String) (found : List String) : Schema → List String
  | ⟨reference, circular, keywords, properties, items, _, allOf, oneOf, anyOf⟩ =>
    if reference.isSome || circular then found
    else
      let found := if keywords.nullable && !path.isEmpty then notePath found path else found
      let found := collectBranches path found allOf
      let found := collectBranches path found oneOf
      let found := collectBranches path found anyOf
      let found := collectProperties path found properties
      collectItems path found items

/-- Adds the paths met in branches. -/
def collectBranches (path : String) (found : List String) : Option (List Schema) → List String
  | none => found
  | some branches => collectList path found branches

/-- Adds the paths met in a list of branches. -/
def collectList (path : String) (found : List String) : List Schema → List String
  | [] => found
  | schema :: rest => collectList path (collectNullable path found schema) rest

/-- Adds the paths met in properties. -/
def collectProperties (path : String) (found : List String) :
    Option (List (String × Schema)) → List String
  | none => found
  | some properties => collectEntries path found properties

/-- Adds the paths met in a list of properties. -/
def collectEntries (path : String) (found : List String) : List (String × Schema) → List String
  | [] => found
  | (name, schema) :: rest =>
    collectEntries path (collectNullable (childPath path name) found schema) rest

/-- Adds the paths met in items. -/
def collectItems (path : String) (found : List String) : Option Schema → List String
  | none => found
  | some schema => collectNullable path found schema

end

/-- The paths of nullable properties. -/
def nullablePaths (s : Schema) : List String := collectNullable "" [] s

end MockApi.Schema
