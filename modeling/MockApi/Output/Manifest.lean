import MockApi.Output.Module
import MockApi.Text.Case
import MockApi.Node.Reader

/-! # The manifest

The manifest has one entry for every generated module. A run replaces the entries of the endpoints
it generates and keeps all others before its own. Endpoints are told apart by method, in any case,
and path.
-/

namespace MockApi

/-- The entry of a module. -/
structure ManifestEntry where
  /-- The method, in upper case where the tool wrote it. -/
  method : String
  path : String
  operationId : String := ""
  summary : String := ""
  description : Option String := none
  mockFile : String := ""
  nullablePaths : List String := []
deriving DecidableEq, Repr

namespace ManifestEntry

/-- The entry of an endpoint's mocks. -/
def ofMock (m : EndpointMock) : ManifestEntry where
  method := m.endpoint.method.upper
  path := m.endpoint.path
  operationId := m.endpoint.operationId
  summary := m.endpoint.summary
  description := m.endpoint.description
  mockFile := moduleFileName m.endpoint.method.lower m.endpoint.path
  nullablePaths := m.nullablePaths

/-- What tells entries apart. -/
def key (e : ManifestEntry) : String × String := (Text.toUpper e.method, e.path)

/-- The object of an entry. -/
def toJson (e : ManifestEntry) : Json :=
  .object [("method", .string e.method), ("path", .string e.path),
    ("operationId", .string e.operationId), ("summary", .string e.summary),
    ("description", (e.description.map Json.string).getD .null),
    ("mockFile", .string e.mockFile), ("nullablePaths", .array (e.nullablePaths.map .string))]

open Node in
/-- The entry that a tree holds. -/
def ofNode? (depth : Nat) (t : Node) : Option ManifestEntry := do
  let (depth, found) ← record? #[]
    [⟨"method", false⟩, ⟨"path", false⟩, ⟨"operationId", true⟩, ⟨"summary", true⟩,
      ⟨"description", true⟩, ⟨"mockFile", true⟩, ⟨"nullablePaths", true⟩] depth t
  match found with
  | [method, path, operationId, summary, description, mockFile, nullablePaths] =>
    return {
      method := ← required? (text? #[]) method
      path := ← required? (text? #[]) path
      operationId := ← defaulted? "" (text? #[]) operationId
      summary := ← defaulted? "" (text? #[]) summary
      description := ← maybe? #[] (text? #[]) description
      mockFile := ← defaulted? "" (text? #[]) mockFile
      nullablePaths := ← defaulted? [] (list? #[] depth fun _ => text? #[]) nullablePaths }
  | _ => none

end ManifestEntry

/-- The entries of all modules. -/
structure Manifest where
  entries : List ManifestEntry := []
deriving DecidableEq, Repr

namespace Manifest

/-- The entries of a run. -/
def ofRun (r : Run) : Manifest := ⟨r.endpoints.map ManifestEntry.ofMock⟩

/-- True of entries that name a method and a path. -/
def isNamed (e : ManifestEntry) : Bool := !e.path.isEmpty && !e.method.isEmpty

/-- Puts the entries of an earlier manifest that are not replaced before the new ones. -/
def keeping (new old : Manifest) : Manifest :=
  ⟨(old.entries.filter fun e => isNamed e && !new.entries.any fun n => n.key == e.key) ++
    new.entries⟩

/-- A Latin letter in upper case; any other character stays. -/
def latinUpper (s : String) : List Char := s.toList.map Char.toUpper

/-- The entry of a method, in any case, and a path. -/
def get? (m : Manifest) (method path : String) : Option ManifestEntry :=
  let method := Text.toUpper method
  m.entries.find? fun e => latinUpper e.method == latinUpper method && e.path == path

/-- The object of a manifest. -/
def toJson (m : Manifest) : Json :=
  .object [("manifest", .array (m.entries.map ManifestEntry.toJson))]

open Node in
/-- The manifest that a document holds. -/
def ofDocument? (d : Document) : Option Manifest := do
  let (depth, found) ← record? d.anchors [⟨"manifest", false⟩] d.depth d.root
  match found with
  | [entries] => return ⟨← required? (list? d.anchors depth ManifestEntry.ofNode?) entries⟩
  | _ => none

end Manifest

end MockApi
