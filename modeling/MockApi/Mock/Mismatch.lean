import MockApi.Log
import MockApi.Schema.Basic
import MockApi.Spec.Method

/-! # Examples of the wrong type

An example whose type contradicts the declared one does not stop anything. It is recorded under its
endpoint and reported when the run is over, endpoint by endpoint in the order of their keys.
-/

namespace MockApi

/-- The key that diagnostics of an endpoint are collected under. -/
def endpointKey (method : Method) (path : String) : String := method.lower ++ "-" ++ path

/-- An example that contradicts its schema. -/
structure Mismatch where
  method : Method
  path : String
  /-- The property, or `root` for a whole body. -/
  key : String
  schemaType : String
  exampleType : String
deriving DecidableEq, Repr

namespace Mismatch

/-- The key of the mismatch's endpoint. -/
def endpoint (m : Mismatch) : String := endpointKey m.method m.path

/-- The object of a mismatch. -/
def toJson (m : Mismatch) : Json :=
  .object [("method", .string m.method.lower), ("path", .string m.path), ("key", .string m.key),
    ("schemaType", .string m.schemaType), ("exampleType", .string m.exampleType)]

/-- The line of a mismatch in the report. -/
def line (m : Mismatch) : String :=
  "Found " ++ m.key ++ " in (" ++ m.method.upper ++ ") - " ++ m.path ++ " with schema type " ++
    m.schemaType ++ " but received example in type: " ++ m.exampleType

end Mismatch

/-- Mismatches by the keys of their endpoints, in the order of recording. -/
structure Mismatches where
  byEndpoint : Entries (List Mismatch) := []

namespace Mismatches

/-- Nothing recorded. -/
def empty : Mismatches := {}

/-- Records a mismatch. -/
def push (ms : Mismatches) (m : Mismatch) : Mismatches :=
  ⟨ms.byEndpoint.alter m.endpoint fun old => old.getD [] ++ [m]⟩

/-- Records mismatches in order. -/
def pushAll (ms : Mismatches) (more : List Mismatch) : Mismatches := more.foldl push ms

/-- All mismatches, endpoint by endpoint. -/
def toList (ms : Mismatches) : List Mismatch := ms.byEndpoint.values.flatten

/-- Records everything that another collection holds. -/
def extend (ms other : Mismatches) : Mismatches := ms.pushAll other.toList

/-- The mismatches of one endpoint. -/
def get? (ms : Mismatches) (endpoint : String) : Option (List Mismatch) :=
  ms.byEndpoint.find? endpoint

/-- How many mismatches there are. -/
def size (ms : Mismatches) : Nat := ms.byEndpoint.values.flatten.length

/-- True when nothing was recorded. -/
def isEmpty (ms : Mismatches) : Bool := ms.byEndpoint.isEmpty

/-- The mismatches in the order of their endpoints' keys. -/
def sorted (ms : Mismatches) : List Mismatch :=
  ((ms.byEndpoint.keys.mergeSort fun a b => decide (a ≤ b)).map fun key =>
    (ms.get? key).getD []).flatten

/-- The object of a collection. -/
def toJson (ms : Mismatches) : Json :=
  .object [("errors", .object (ms.byEndpoint.mapValues fun list =>
    .array (list.map Mismatch.toJson)))]

/-- The lines of the report; without mismatches there is none. -/
def report (ms : Mismatches) : List LogLine :=
  if ms.isEmpty then []
  else
    .fault "Found the following mismatched examples in the schema:" ::
      ms.sorted.map fun m => .fault m.line

end Mismatches

/-- The word for the type of a value. -/
def Json.typeName : Json → String
  | .null => "null"
  | .bool _ => "boolean"
  | .number _ => "number"
  | .string _ => "string"
  | .array _ => "array"
  | .object _ => "object"

/-- True when a value is of a declared type. Integers may be any number, and a type of no known name
admits every value. -/
def SchemaType.admits : SchemaType → Json → Bool
  | .string, value => value.typeName == "string"
  | .number, value => value.typeName == "number"
  | .integer, value => value.typeName == "number"
  | .boolean, value => value.typeName == "boolean"
  | .array, value => value.typeName == "array"
  | .object, value => value.typeName == "object"
  | .other _, _ => true

/-- The mismatch between a schema's declared type and its example, if there is one. A given example
comes before the schema's own. -/
def Schema.mismatch? (schema : Schema) (given : Option Json) (key : Option String)
    (method : Method) (path : String) : Option Mismatch := do
  let type ← schema.keywords.type
  let value ← given.or schema.keywords.exampleValue
  if type.admits value then none
  else return ⟨method, path, key.getD "root", type.name, value.typeName⟩

end MockApi
