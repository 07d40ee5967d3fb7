import MockApi.Spec.Decode
import MockApi.Spec.WideBound
import MockApi.Text.Blank
import MockApi.Yaml.Reader

/-! # Reading an API document from its text

The text is JSON or YAML; without a given format, a text whose first character is a brace is JSON.
Wide bounds are replaced first. A document must be of version three and must have paths; of two
faults the version is reported.
-/

namespace MockApi.Spec

/-- Why a text is no API document. -/
inductive ParseError where
  | json
  | yaml
  | unsupportedVersion (version : String)
  | missingPaths
  | unreadableFile
  | invalidAddress
deriving DecidableEq, Repr

/-- The wording of an error of the document itself. -/
def ParseError.message? : ParseError → Option String
  | .unsupportedVersion version =>
    some ("Unsupported OpenAPI version: " ++ version ++ " (only OpenAPI v3 is supported)")
  | .missingPaths => some "No paths found in the loaded OpenAPI spec"
  | _ => none

/-- How a text is written. -/
inductive TextFormat where
  | json
  | yaml
deriving DecidableEq, Repr

/-- JSON when a brace comes first, else YAML. -/
def TextFormat.detect (s : String) : TextFormat :=
  if (s.toList.dropWhile Text.isBlank).head? == some '\x7b' then .json else .yaml

/-- The document of a draft that has the right version and paths. -/
def Draft.finish (d : Draft) : Except ParseError ApiDocument :=
  if d.openapi.toList.head? ≠ some '3' then .error (.unsupportedVersion d.openapi)
  else match d.paths with
    | none => .error .missingPaths
    | some paths =>
      .ok ⟨d.openapi, d.title, d.version, endpoints paths, d.components.getD {}⟩

/-- Reads a document in the given format, or in the one that the text shows. -/
def parse (given : Option TextFormat) (text : String) : Except ParseError ApiDocument :=
  let text := WideBound.replaceAll text
  match given.getD (TextFormat.detect text) with
  | .json =>
    match (Node.readJson text).toOption.bind draft? with
    | some d => d.finish
    | none => .error .json
  | .yaml =>
    match (Yaml.read? text).bind draft? with
    | some d => d.finish
    | none => .error .yaml

end MockApi.Spec
