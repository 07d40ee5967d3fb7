import MockApi.Schema.Basic

/-! # Merging schemas

Merging overlays one schema on another. A keyword of the upper schema replaces that of the lower
one; `nullable` and the circular marker hold when either has them. Properties, items and described
additional values merge recursively, lists of branches are replaced whole.

Flattening a node with `allOf` merges its branches in order and then the node's own keywords.
-/

namespace MockApi

/-- The upper keywords where they are present, else the lower ones. -/
def Keywords.overlay (lower upper : Keywords) : Keywords where
  type := upper.type.or lower.type
  enum := upper.enum.or lower.enum
  format := upper.format.or lower.format
  pattern := upper.pattern.or lower.pattern
  minimum := upper.minimum.or lower.minimum
  maximum := upper.maximum.or lower.maximum
  exclusiveMinimum := upper.exclusiveMinimum.or lower.exclusiveMinimum
  exclusiveMaximum := upper.exclusiveMaximum.or lower.exclusiveMaximum
  multipleOf := upper.multipleOf.or lower.multipleOf
  minLength := upper.minLength.or lower.minLength
  maxLength := upper.maxLength.or lower.maxLength
  nullable := lower.nullable || upper.nullable
  exampleValue := upper.exampleValue.or lower.exampleValue

namespace Schema

mutual

/-- Overlays the second schema on the first. -/
def merge : Schema → Schema → Schema
  | lower, ⟨reference, circular, keywords, properties, items, additional, allOf, oneOf, anyOf⟩ =>
    { reference := reference.or lower.reference
      circular := lower.circular || circular
      keywords := lower.keywords.overlay keywords
      properties := mergeProperties lower.properties properties
      items := mergeItems lower.items items
      additional := mergeAdditional lower.additional additional
      allOf := allOf.or lower.allOf
      oneOf := oneOf.or lower.oneOf
      anyOf := anyOf.or lower.anyOf }

/-- Properties of both, those of one name merged. -/
def mergeProperties : Option (List (String × Schema)) → Option (List (String × Schema)) →
    Option (List (String × Schema))
  | lower, none => lower
  | lower, some upper => some (mergeEntries (lower.getD []) upper)

/-- Adds properties one by one: a known name is merged in place, a new one goes to the end. -/
def mergeEntries : List (String × Schema) → List (String × Schema) → List (String × Schema)
  | lower, [] => lower
  | lower, (name, schema) :: rest =>
    let merged := match lower.lookup name with
      | some existing => merge existing schema
      | none => schema
    mergeEntries (Entries.insert lower name merged) rest

/-- Items of both, merged. -/
def mergeItems : Option Schema → Option Schema → Option Schema
  | lower, none => lower
  | none, some upper => some upper
  | some lower, some upper => some (merge lower upper)

/-- Two described additional values merge; otherwise the upper one replaces the lower one. -/
def mergeAdditional : Option (Additional Schema) → Option (Additional Schema) →
    Option (Additional Schema)
  | lower, none => lower
  | _, some (.flag allowed) => some (.flag allowed)
  | some (.schema lower), some (.schema upper) => some (.schema (merge lower upper))
  | some (.flag _), some (.schema upper) => some (.schema upper)
  | none, some (.schema upper) => some (.schema upper)

end

/-- Merges schemas from left to right, starting from the empty one. -/
def mergeAll (schemas : List Schema) : Schema := schemas.foldl merge empty

/-- The node's own keywords without `allOf`. -/
def ownPart (s : Schema) : Schema := { s with allOf := none }

/-- The branches of `allOf` and then the node itself, merged. -/
def flattenAllOf (s : Schema) : Schema := mergeAll (s.allOf.getD [] ++ [s.ownPart])

end Schema

end MockApi
