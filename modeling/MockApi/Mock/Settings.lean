import MockApi.Mock.Mismatch
import MockApi.Mock.Rule
import MockApi.Schema.Encode
import MockApi.Node.Reader

/-! # Settings

A configuration has settings for all endpoints and overrides for single ones. What is absent from a
configuration has a default; what is absent from the overrides of an endpoint is taken from the
global settings, and its rules are laid over the global rules.
-/

namespace MockApi

/-- Overrides for one path and method. -/
structure EndpointSettings where
  arrayLength : Option Nat := none
  useExample : Option Bool := none
  dynamic : Option Bool := none
  rules : Rules := []

/-- A configuration. -/
structure Settings where
  /-- The path or address of the API document. -/
  specPath : String := ""
  outputDir : String := ".mocks"
  baseUrl : Option String := none
  arrayLength : Nat := 5
  useExample : Bool := true
  /-- Whether modules hold generator calls instead of values. -/
  dynamic : Bool := false
  rules : Rules := []
  endpoints : Entries (List (Method × EndpointSettings)) := []

/-- What holds for one endpoint. -/
structure Context where
  path : String
  method : Method
  arrayLength : Nat
  useExample : Bool
  dynamic : Bool
  rules : Rules

/-- The key that diagnostics of the endpoint are collected under. -/
def Context.key (c : Context) : String := endpointKey c.method c.path

namespace EndpointSettings

/-- The object of overrides; what is absent or empty is left out. -/
def toJson (s : EndpointSettings) : Json :=
  .object (Json.optionalMember "arrayLength" Json.nat s.arrayLength ++
    Json.optionalMember "useExample" Json.bool s.useExample ++
    Json.optionalMember "dynamic" Json.bool s.dynamic ++
    if s.rules.isEmpty then [] else [("fakerMap", s.rules.toJson)])

end EndpointSettings

namespace Settings

open Node

/-- The object of the endpoints of one path. -/
def methodsToJson (methods : List (Method × EndpointSettings)) : Json :=
  .object (methods.map fun (m, s) => (m.lower, s.toJson))

/-- The object of a configuration. -/
def toJson (s : Settings) : Json :=
  .object ([("specPath", .string s.specPath), ("outputDir", .string s.outputDir)] ++
    Json.optionalMember "baseUrl" Json.string s.baseUrl ++
    [("arrayLength", Json.nat s.arrayLength), ("useExample", .bool s.useExample),
      ("dynamic", .bool s.dynamic), ("fakerMap", s.rules.toJson),
      ("endpoints", .object (s.endpoints.mapValues methodsToJson))])

/-- Rules from a map of values. -/
def rules? (anchors : Anchors) (depth : Nat) : Node → Option Rules :=
  entries? anchors depth fun depth t => (json? anchors depth t).map Rule.ofJson

/-- Overrides of one endpoint. -/
def endpoint? (anchors : Anchors) (depth : Nat) (t : Node) : Option EndpointSettings := do
  let (depth, found) ← record? anchors
    [⟨"arrayLength", false⟩, ⟨"useExample", false⟩, ⟨"dynamic", false⟩, ⟨"fakerMap", true⟩] depth t
  match found with
  | [arrayLength, useExample, dynamic, rules] =>
    return ⟨← maybe? anchors (nat64? anchors) arrayLength,
      ← maybe? anchors (bool? anchors) useExample, ← maybe? anchors (bool? anchors) dynamic,
      ← defaulted? [] (rules? anchors depth) rules⟩
  | _ => none

/-- The overrides of one path by method. -/
def methods? (anchors : Anchors) (depth : Nat) (t : Node) :
    Option (List (Method × EndpointSettings)) := do
  let entries ← entries? anchors depth (endpoint? anchors) t
  entries.mapM fun (e : String × EndpointSettings) => (Method.ofLower? e.1).map fun m => (m, e.2)

/-- The names of a configuration's members, all of which may be left out. -/
def fields : List Field :=
  ["specPath", "outputDir", "baseUrl", "arrayLength", "useExample", "dynamic", "fakerMap",
    "endpoints"].map fun name => ⟨name, true⟩

/-- The configuration that a document holds. -/
def ofDocument? (d : Document) : Option Settings := do
  let a := d.anchors
  let (depth, found) ← record? a fields d.depth d.root
  match found with
  | [specPath, outputDir, baseUrl, arrayLength, useExample, dynamic, rules, endpoints] =>
    let defaults : Settings := {}
    return {
      specPath := ← defaulted? defaults.specPath (text? a) specPath
      outputDir := ← defaulted? defaults.outputDir (text? a) outputDir
      baseUrl := ← maybe? a (text? a) baseUrl
      arrayLength := ← defaulted? defaults.arrayLength (nat64? a) arrayLength
      useExample := ← defaulted? defaults.useExample (bool? a) useExample
      dynamic := ← defaulted? defaults.dynamic (bool? a) dynamic
      rules := ← defaulted? [] (rules? a depth) rules
      endpoints := ← defaulted? [] (entries? a depth (methods? a)) endpoints }
  | _ => none

/-- The configuration that a JSON value holds. -/
def ofJson? (x : Json) : Option Settings := ofDocument? (Node.document x)

/-- The overrides of an endpoint. -/
def endpoint (s : Settings) (path : String) (method : Method) : Option EndpointSettings :=
  (s.endpoints.find? path).bind (List.lookup method)

/-- Changes the overrides among those of a path; missing ones start out empty. -/
def alterMethod (method : Method) (f : EndpointSettings → EndpointSettings) :
    List (Method × EndpointSettings) → List (Method × EndpointSettings)
  | [] => [(method, f {})]
  | (m, s) :: rest => if m = method then (m, f s) :: rest else (m, s) :: alterMethod method f rest

/-- Changes the overrides of an endpoint; missing ones start out empty. -/
def alterEndpoint (s : Settings) (path : String) (method : Method)
    (f : EndpointSettings → EndpointSettings) : Settings :=
  { s with endpoints := s.endpoints.alter path fun old => alterMethod method f (old.getD []) }

/-- What holds for an endpoint. -/
def contextFor (s : Settings) (path : String) (method : Method) : Context :=
  let own := (s.endpoint path method).getD {}
  { path := path
    method := method
    arrayLength := own.arrayLength.getD s.arrayLength
    useExample := own.useExample.getD s.useExample
    dynamic := own.dynamic.getD s.dynamic
    rules := s.rules.merged own.rules }

end Settings

end MockApi
