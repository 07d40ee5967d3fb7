import MockApi.Reference.Expand
import MockApi.Schema.Encode
import MockApi.Schema.Nullable

/-! # Resolving responses

A response may be a reference, whose target may be one again; likewise a named example. Following
such a chain ends at an item, or at a reference that is met twice or leads nowhere, and then there
is no item. A resolved response has the expanded schema, the nullable paths and the example of
every media type.
-/

namespace MockApi

/-- The example of a media type: a value, or none although one was named. -/
inductive ResolvedExample where
  | value (json : Json)
  | unavailable

/-- The value of an example. -/
def ResolvedExample.value? : ResolvedExample → Option Json
  | .value json => some json
  | .unavailable => none

/-- The example that a named example gives: its value, else its address. -/
def Example.resolved (e : Example) : ResolvedExample :=
  match e.value with
  | some json => .value json
  | none =>
    match e.externalValue with
    | some address => .value (.string address)
    | none => .unavailable

/-- A media type with nothing left to look up. -/
structure ResolvedMedia where
  schema : Schema
  nullablePaths : List String
  exampleObject : Option ResolvedExample

/-- A response code with nothing left to look up. -/
structure ResolvedResponse where
  code : String
  content : Entries ResolvedMedia

/-- The body that mocks are made of: the first media type named after JSON, else the first one. -/
def ResolvedResponse.body? (r : ResolvedResponse) : Option ResolvedMedia :=
  ((List.find? (fun m => Text.contains "json".toList m.1.toList) r.content).or
    r.content.head?).map Prod.snd

/-- The object of a media type; the example is left out when there is none. -/
def ResolvedMedia.toJson (m : ResolvedMedia) : Json :=
  .object ([("schema", m.schema.toJson), ("nullablePaths", .array (m.nullablePaths.map .string))] ++
    Json.optionalMember "exampleObject" (fun e => e.value?.getD .null) m.exampleObject)

/-- The object of a response. -/
def ResolvedResponse.toJson (r : ResolvedResponse) : Json :=
  .object [("code", .string r.code),
    ("content", .object (r.content.mapValues ResolvedMedia.toJson))]

/-- An endpoint with its responses resolved. -/
structure ResolvedEndpoint where
  method : Method
  path : String
  operationId : String
  summary : String
  description : Option String
  responses : List ResolvedResponse

/-- The object of an endpoint. -/
def ResolvedEndpoint.toJson (e : ResolvedEndpoint) : Json :=
  .object [("method", .string e.method.lower), ("path", .string e.path),
    ("operationId", .string e.operationId), ("summary", .string e.summary),
    ("description", (e.description.map Json.string).getD .null),
    ("responses", .array (e.responses.map ResolvedResponse.toJson))]

namespace Reference

/-- Follows references to an item. `severity` is the weight of a reference that leads nowhere. -/
def follow {α : Type} (part : Section) (entries : Entries (Linked α)) (severity : Severity) :
    Nat → List String → Linked α → Resolution (Option α)
  | _, _, .item x => ⟨some x, []⟩
  | 0, _, .reference _ => ⟨none, []⟩
  | fuel + 1, stack, .reference r =>
    if r ∈ stack then .broken none (.circular r) .warning
    else match find part entries r with
      | .error problem => .broken none problem severity
      | .ok target => follow part entries severity fuel (r :: stack) target

/-- Follows references among entries; each entry gives at most one new reference. -/
def chase {α : Type} (part : Section) (entries : Entries (Linked α)) (severity : Severity)
    (start : Linked α) : Resolution (Option α) :=
  follow part entries severity (entries.length + 2) [] start

/-- The example of a media type. The first named example wins over the plain one. -/
def mediaExample (components : Components) (m : MediaType) : Resolution (Option ResolvedExample) :=
  match m.examples with
  | some ((_, named) :: _) =>
    (chase .examples components.examples .warning named).map fun found =>
      some (match found with
        | some e => e.resolved
        | none => .unavailable)
  | _ => ⟨m.exampleValue.map .value, []⟩

/-- A resolved media type. -/
def media (components : Components) (m : MediaType) : Resolution ResolvedMedia :=
  let schema := match m.schema with
    | some s => expand components.schemas s
    | none => ⟨Schema.empty, []⟩
  schema.zip (fun s e => ⟨s, s.nullablePaths, e⟩) (mediaExample components m)

/-- The resolved media types of a response; none when its reference leads nowhere. -/
def content (components : Components) (r : Linked Response) : Resolution (Entries ResolvedMedia) :=
  let found := chase .responses components.responses .error r
  match found.value.bind Response.content with
  | some entries =>
    let resolved := Resolution.forEntries (media components) entries
    ⟨resolved.value, found.findings ++ resolved.findings⟩
  | none => ⟨[], found.findings⟩

/-- The resolved responses of an operation. -/
def responses (components : Components) (entries : Entries (Linked Response)) :
    Resolution (List ResolvedResponse) :=
  Resolution.forEach (fun e => (content components e.2).map fun c => ⟨e.1, c⟩) entries

/-- A resolved endpoint. -/
def endpoint (components : Components) (e : Endpoint) : Resolution ResolvedEndpoint :=
  (responses components e.responses).map fun rs =>
    ⟨e.method, e.path, e.operationId, e.summary, e.description, rs⟩

/-- The resolved endpoints. -/
def endpoints (components : Components) (es : List Endpoint) : Resolution (List ResolvedEndpoint) :=
  Resolution.forEach (endpoint components) es

end Reference

end MockApi
