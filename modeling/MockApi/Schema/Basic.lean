import MockApi.Json.Value

/-! # Schemas

A schema node has keywords without sub-schemas and, beside them, its sub-schemas. A node with a
reference stands for the schema that the reference names; a circular node marks the place where a
chain of references was cut.
-/

namespace MockApi

/-- The declared type of a schema node. -/
inductive SchemaType where
  | string
  | number
  | integer
  | boolean
  | object
  | array
  | other (name : String)
deriving DecidableEq, Repr

namespace SchemaType

/-- The word for a type. -/
def name : SchemaType → String
  | .string => "string"
  | .number => "number"
  | .integer => "integer"
  | .boolean => "boolean"
  | .object => "object"
  | .array => "array"
  | .other s => s

/-- The type of a word; any word is a type. -/
def ofName (s : String) : SchemaType :=
  if s = "string" then .string
  else if s = "number" then .number
  else if s = "integer" then .integer
  else if s = "boolean" then .boolean
  else if s = "object" then .object
  else if s = "array" then .array
  else .other s

end SchemaType

/-- An exclusive bound: a flag on the inclusive bound, or a bound of its own. -/
inductive ExclusiveBound where
  | flag (exclusive : Bool)
  | value (bound : Float)
deriving DecidableEq, Repr

/-- Values for undeclared properties: permitted or not, or described by a schema. -/
inductive Additional (α : Type) where
  | flag (allowed : Bool)
  | schema (schema : α)
deriving Repr

/-- The keywords without sub-schemas. -/
structure Keywords where
  type : Option SchemaType := none
  enum : Option (List Json) := none
  format : Option String := none
  pattern : Option String := none
  minimum : Option Float := none
  maximum : Option Float := none
  exclusiveMinimum : Option ExclusiveBound := none
  exclusiveMaximum : Option ExclusiveBound := none
  multipleOf : Option Float := none
  minLength : Option Nat := none
  maxLength : Option Nat := none
  nullable : Bool := false
  exampleValue : Option Json := none
deriving Inhabited

/-- A schema node. -/
structure Schema where
  reference : Option String := none
  circular : Bool := false
  keywords : Keywords := {}
  properties : Option (List (String × Schema)) := none
  items : Option Schema := none
  additional : Option (Additional Schema) := none
  allOf : Option (List Schema) := none
  oneOf : Option (List Schema) := none
  anyOf : Option (List Schema) := none
deriving Inhabited

namespace Schema

/-- The schema without any keyword. -/
def empty : Schema := {}

/-- The marker left where a chain of references was cut. -/
def cut : Schema := { circular := true }

/-- True of the nodes that nothing below is looked at: references and circular markers. -/
def isMarker (s : Schema) : Bool := s.reference.isSome || s.circular

/-- True when some bound or step for numbers is declared. -/
def hasNumericBound (s : Schema) : Bool :=
  s.keywords.minimum.isSome || s.keywords.maximum.isSome || s.keywords.multipleOf.isSome ||
    s.keywords.exclusiveMinimum.isSome || s.keywords.exclusiveMaximum.isSome

/-- A list of branches that is present and not empty. -/
def branches? (list : Option (List Schema)) : Option (List Schema) :=
  list.filter fun branches => !branches.isEmpty

/-- The alternatives of a node: those of `oneOf`, else those of `anyOf`. -/
def alternatives (s : Schema) : Option (List Schema) :=
  (branches? s.oneOf).or (branches? s.anyOf)

end Schema

end MockApi
