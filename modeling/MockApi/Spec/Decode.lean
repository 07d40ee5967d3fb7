import MockApi.Spec.Basic
import MockApi.Schema.Decode
import MockApi.Text.Search

/-! # Reading API documents

The parts of a document are read by their declared fields. Responses and examples are settled
before anything is read from them: a map with a text under `$ref` is a reference whatever stands
beside it, all else has to be an item.
-/

namespace MockApi.Spec

open Node

/-- The reference that a settled node is, if it is one. -/
def reference? (t : Node) : Option String := do
  match t with
  | .map _ entries =>
    let found ← collect #[] [⟨"$ref", false⟩] entries [none]
    match found with
    | [some value] => text? #[] value
    | _ => none
  | _ => none

/-- A reference or an item. -/
def linked? {α : Type} (item : Nat → Node → Option α) (anchors : Anchors) (depth : Nat) (t : Node) :
    Option (Linked α) := do
  let settled ← settle? anchors depth t
  match reference? settled with
  | some target => return .reference target
  | none => return .item (← item depth settled)

/-- A named example. -/
def example? (depth : Nat) (t : Node) : Option Example := do
  let (depth, found) ← record? #[]
    [⟨"summary", false⟩, ⟨"value", false⟩, ⟨"externalValue", false⟩] depth t
  match found with
  | [summary, value, externalValue] =>
    return ⟨← maybe? #[] (text? #[]) summary, ← maybe? #[] (json? #[] depth) value,
      ← maybe? #[] (text? #[]) externalValue⟩
  | _ => none

/-- A media type. -/
def mediaType? (depth : Nat) (t : Node) : Option MediaType := do
  let (depth, found) ← record? #[]
    [⟨"schema", false⟩, ⟨"example", false⟩, ⟨"examples", false⟩] depth t
  match found with
  | [schema, sample, examples] =>
    return ⟨← maybe? #[] (Schema.ofNode? #[] depth) schema, ← maybe? #[] (json? #[] depth) sample,
      ← maybe? #[] (entries? #[] depth (linked? example? #[])) examples⟩
  | _ => none

/-- A response. -/
def response? (depth : Nat) (t : Node) : Option Response := do
  let (depth, found) ← record? #[] [⟨"description", false⟩, ⟨"content", true⟩] depth t
  match found with
  | [description, content] =>
    return ⟨← maybe? #[] (text? #[]) description,
      ← maybe? #[] (entries? #[] depth mediaType?) content⟩
  | _ => none

/-- The responses of an operation or of the components. -/
def responses? (anchors : Anchors) (depth : Nat) : Node → Option (Entries (Linked Response)) :=
  entries? anchors depth (linked? response? anchors)

/-- An operation as it stands in the document. -/
structure Operation where
  operationId : Option String
  summary : Option String
  description : Option String
  tags : List String
  responses : Entries (Linked Response)

/-- An operation. -/
def operation? (anchors : Anchors) (depth : Nat) (t : Node) : Option Operation := do
  let (depth, found) ← record? anchors
    [⟨"operationId", false⟩, ⟨"summary", false⟩, ⟨"description", false⟩, ⟨"tags", true⟩,
      ⟨"responses", true⟩] depth t
  match found with
  | [operationId, summary, description, tags, responses] =>
    return ⟨← maybe? anchors (text? anchors) operationId, ← maybe? anchors (text? anchors) summary,
      ← maybe? anchors (text? anchors) description,
      ← defaulted? [] (list? anchors depth fun _ => text? anchors) tags,
      ← defaulted? [] (responses? anchors depth) responses⟩
  | _ => none

/-- The operations of a path, in the fixed order of methods. -/
def pathItem? (anchors : Anchors) (depth : Nat) (t : Node) :
    Option (List (Method × Operation)) := do
  let (depth, found) ← record? anchors (Method.all.map fun m => ⟨m.lower, false⟩) depth t
  let operations ← found.mapM (maybe? anchors (operation? anchors depth))
  return (Method.all.zip operations).filterMap fun (m, o) => o.map fun o => (m, o)

/-- The components. -/
def components? (anchors : Anchors) (depth : Nat) (t : Node) : Option Components := do
  let (depth, found) ← record? anchors
    [⟨"schemas", true⟩, ⟨"responses", true⟩, ⟨"examples", true⟩] depth t
  match found with
  | [schemas, responses, examples] =>
    return ⟨← defaulted? [] (entries? anchors depth (Schema.ofNode? anchors)) schemas,
      ← defaulted? [] (responses? anchors depth) responses,
      ← defaulted? [] (entries? anchors depth (linked? example? anchors)) examples⟩
  | _ => none

/-- A document before its version and paths are looked at. -/
structure Draft where
  openapi : String
  title : String
  version : String
  paths : Option (Entries (List (Method × Operation)))
  components : Option Components

/-- Title and version. -/
def info? (anchors : Anchors) (depth : Nat) (t : Node) : Option (String × String) := do
  let (_, found) ← record? anchors
    [⟨"title", false⟩, ⟨"description", false⟩, ⟨"version", false⟩] depth t
  match found with
  | [title, description, version] =>
    let title ← required? (text? anchors) title
    let _ ← maybe? anchors (text? anchors) description
    return (title, ← required? (text? anchors) version)
  | _ => none

/-- The draft that a document holds. -/
def draft? (d : Document) : Option Draft := do
  let (depth, found) ← record? d.anchors
    [⟨"openapi", false⟩, ⟨"info", false⟩, ⟨"paths", true⟩, ⟨"components", true⟩] d.depth d.root
  match found with
  | [openapi, info, paths, components] =>
    let openapi ← required? (text? d.anchors) openapi
    let (title, version) ← required? (info? d.anchors depth) info
    return ⟨openapi, title, version,
      ← maybe? d.anchors (entries? d.anchors depth (pathItem? d.anchors)) paths,
      ← maybe? d.anchors (components? d.anchors depth) components⟩
  | _ => none

/-- The identifier of an operation without one: the method, and the path with its slashes as
underscores and without braces. -/
def defaultOperationId (method : Method) (path : String) : String :=
  let body := (path.toList.dropWhile (· == '/')).filterMap fun c =>
    if c = '/' then some '_' else if c = '\x7b' ∨ c = '\x7d' then none else some c
  method.lower ++ "_" ++ String.ofList body

/-- The endpoint of an operation. -/
def endpoint (path : String) (method : Method) (o : Operation) : Endpoint where
  path := path
  method := method
  operationId := o.operationId.getD (defaultOperationId method path)
  summary := o.summary.getD ""
  description := o.description
  tags := o.tags
  responses := o.responses

/-- All endpoints, path by path. -/
def endpoints (paths : Entries (List (Method × Operation))) : List Endpoint :=
  paths.flatMap fun (path, operations) => operations.map fun (m, o) => endpoint path m o

end MockApi.Spec
