import MockApi.Schema.Basic

/-! # Schemas as JSON

Present keywords in a fixed order. Bounds are written as doubles whatever they were read from; the
circular marker and `nullable` appear only when they hold.
-/

namespace MockApi

/-- A member that is there only when the value is present. -/
def Json.optionalMember {α : Type} (name : String) (encode : α → Json) (value : Option α) :
    List (String × Json) :=
  match value with
  | some x => [(name, encode x)]
  | none => []

/-- A member that is there only when the flag holds. -/
def Json.flagMember (name : String) (value : Bool) : List (String × Json) :=
  if value then [(name, .bool true)] else []

namespace ExclusiveBound

/-- A flag as a boolean, a bound as a double. -/
def toJson : ExclusiveBound → Json
  | .flag b => .bool b
  | .value x => Json.ofFloat x

end ExclusiveBound

/-- The keywords from `format` on, in writing order. -/
def Keywords.trailingMembers (k : Keywords) : List (String × Json) :=
  Json.optionalMember "format" .string k.format ++
  Json.optionalMember "pattern" .string k.pattern ++
  Json.optionalMember "minimum" Json.ofFloat k.minimum ++
  Json.optionalMember "maximum" Json.ofFloat k.maximum ++
  Json.optionalMember "exclusiveMinimum" ExclusiveBound.toJson k.exclusiveMinimum ++
  Json.optionalMember "exclusiveMaximum" ExclusiveBound.toJson k.exclusiveMaximum ++
  Json.optionalMember "multipleOf" Json.ofFloat k.multipleOf ++
  Json.optionalMember "minLength" Json.nat k.minLength ++
  Json.optionalMember "maxLength" Json.nat k.maxLength ++
  Json.flagMember "nullable" k.nullable ++
  Json.optionalMember "example" id k.exampleValue

namespace Schema

mutual

/-- The JSON object of a schema. -/
def toJson : Schema → Json
  | ⟨reference, circular, keywords, properties, items, additional, allOf, oneOf, anyOf⟩ =>
    .object (
      Json.optionalMember "$ref" .string reference ++
      Json.flagMember "x-circular-ref" circular ++
      Json.optionalMember "type" (fun t => .string t.name) keywords.type ++
      propertiesMember properties ++
      itemsMember items ++
      additionalMember additional ++
      Json.optionalMember "enum" .array keywords.enum ++
      branchesMember "allOf" allOf ++
      branchesMember "oneOf" oneOf ++
      branchesMember "anyOf" anyOf ++
      keywords.trailingMembers)

/-- The member for properties. -/
def propertiesMember : Option (List (String × Schema)) → List (String × Json)
  | none => []
  | some properties => [("properties", .object (entriesToJson properties))]

/-- Properties as members. -/
def entriesToJson : List (String × Schema) → List (String × Json)
  | [] => []
  | (name, schema) :: rest => (name, toJson schema) :: entriesToJson rest

/-- The member for items. -/
def itemsMember : Option Schema → List (String × Json)
  | none => []
  | some schema => [("items", toJson schema)]

/-- The member for additional values. -/
def additionalMember : Option (Additional Schema) → List (String × Json)
  | none => []
  | some (.flag allowed) => [("additionalProperties", .bool allowed)]
  | some (.schema schema) => [("additionalProperties", toJson schema)]

/-- The member for a list of branches. -/
def branchesMember (name : String) : Option (List Schema) → List (String × Json)
  | none => []
  | some branches => [(name, .array (listToJson branches))]

/-- Branches as items. -/
def listToJson : List Schema → List Json
  | [] => []
  | schema :: rest => toJson schema :: listToJson rest

end

end Schema

end MockApi
