import MockApi.Schema.Basic
import MockApi.Node.Reader

/-! # Reading schemas

Every keyword is optional and unknown keywords are passed over. Additional values and exclusive
bounds are settled first, so that inside them a plain YAML scalar is what it means and not what it
is written as.
-/

namespace MockApi.Schema

open Node

/-- The fields of a schema in declared order; a list of them may end anywhere. -/
def fields : List Field :=
  ["$ref", "x-circular-ref", "type", "properties", "items", "additionalProperties", "enum", "allOf",
    "oneOf", "anyOf", "format", "pattern", "minimum", "maximum", "exclusiveMinimum",
    "exclusiveMaximum", "multipleOf", "minLength", "maxLength", "nullable", "example"].map
    fun name => ⟨name, true⟩

/-- An exclusive bound. -/
def exclusiveBound? (anchors : Anchors) (depth : Nat) (t : Node) : Option ExclusiveBound :=
  match settle? anchors depth t with
  | some (.bool b) => some (.flag b)
  | some (.number n) => some (.value n.toFloat)
  | _ => none

/-- Additional values: a flag, or a schema that is read from the settled node. -/
def additional? (anchors : Anchors) (depth : Nat) (schema : Node → Option Schema) (t : Node) :
    Option (Additional Schema) :=
  match settle? anchors depth t with
  | some (.bool b) => some (.flag b)
  | some settled => (schema settled).map .schema
  | none => none

/-- The keywords without sub-schemas, from the values of their fields. -/
def keywords? (anchors : Anchors) (depth : Nat) (type enum format pattern minimum maximum
    exclusiveMinimum exclusiveMaximum multipleOf minLength maxLength nullable sample :
    Option Node) : Option Keywords :=
  return {
    type := (← maybe? anchors (text? anchors) type).map SchemaType.ofName
    enum := ← maybe? anchors (list? anchors depth (json? anchors)) enum
    format := ← maybe? anchors (text? anchors) format
    pattern := ← maybe? anchors (text? anchors) pattern
    minimum := ← maybe? anchors (float? anchors) minimum
    maximum := ← maybe? anchors (float? anchors) maximum
    exclusiveMinimum := ← maybe? anchors (exclusiveBound? anchors depth) exclusiveMinimum
    exclusiveMaximum := ← maybe? anchors (exclusiveBound? anchors depth) exclusiveMaximum
    multipleOf := ← maybe? anchors (float? anchors) multipleOf
    minLength := ← maybe? anchors (nat64? anchors) minLength
    maxLength := ← maybe? anchors (nat64? anchors) maxLength
    nullable := ← defaulted? false (bool? anchors) nullable
    exampleValue := ← maybe? anchors (json? anchors depth) sample }

/-- A schema from the values of its fields, given how the fields with sub-schemas are read. -/
def ofFields? (anchors : Anchors) (depth : Nat) (entries : Node → Option (Entries Schema))
    (schema : Node → Option Schema) (described : Node → Option (Additional Schema))
    (branches : Node → Option (List Schema)) : List (Option Node) → Option Schema
  | [reference, circular, type, properties, items, additional, enum, allOf, oneOf, anyOf, format,
      pattern, minimum, maximum, exclusiveMinimum, exclusiveMaximum, multipleOf, minLength,
      maxLength, nullable, sample] =>
    return {
      reference := ← maybe? anchors (text? anchors) reference
      circular := ← defaulted? false (bool? anchors) circular
      keywords := ← keywords? anchors depth type enum format pattern minimum maximum
        exclusiveMinimum exclusiveMaximum multipleOf minLength maxLength nullable sample
      properties := ← maybe? anchors entries properties
      items := ← maybe? anchors schema items
      additional := ← maybe? anchors described additional
      allOf := ← maybe? anchors branches allOf
      oneOf := ← maybe? anchors branches oneOf
      anyOf := ← maybe? anchors branches anyOf }
  | _ => none

mutual

/-- A schema; the number bounds the nesting of what is looked at. -/
def ofNode? (anchors : Anchors) : Nat → Node → Option Schema
  | 0, t => if isVoid (view anchors t) then some {} else none
  | depth + 1, t => do
    let (_, found) ← record? anchors fields (depth + 1) t
    ofFields? anchors depth (entriesOfNode? anchors depth) (ofNode? anchors depth)
      (additional? anchors depth (ofNode? #[] depth)) (listOfNode? anchors depth) found

/-- Schemas by name. -/
def entriesOfNode? (anchors : Anchors) : Nat → Node → Option (Entries Schema)
  | 0, t => if isVoid (view anchors t) then some [] else none
  | depth + 1, t =>
    match view anchors t with
    | .map _ xs =>
      (xs.mapM fun (e : Node × Node) => do
        return (← text? anchors e.1, ← ofNode? anchors depth e.2)).map Entries.ofList
    | t => if isVoid t then some [] else none

/-- A list of schemas. -/
def listOfNode? (anchors : Anchors) : Nat → Node → Option (List Schema)
  | 0, t => if isVoid (view anchors t) then some [] else none
  | depth + 1, t =>
    match view anchors t with
    | .list _ xs => xs.mapM (ofNode? anchors depth)
    | t => if isVoid t then some [] else none

end

/-- The schema that a whole document holds. -/
def ofDocument? (d : Document) : Option Schema := ofNode? d.anchors d.depth d.root

end MockApi.Schema
