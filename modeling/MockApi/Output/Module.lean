import MockApi.Output.Run
import MockApi.Text.Case

/-! # Mock modules

The JavaScript module of an endpoint exports one entry for each response code. Its first line marks
it as generated; the faker library is imported, and seeded, only where an entry needs it.
-/

namespace MockApi

namespace MockModule

/-- The first line of every generated file. -/
def marker : String := "// @generated by openapi-mockgen, changes will be overwritten"

/-- The import of the faker library. -/
def preamble : String :=
  "import \x7b faker \x7d from '@faker-js/faker';\n\nfaker.seed(" ++
    toString Capability.defaultSeed.toNat ++ ");\n"

/-- The entry of a response code. -/
def entry (r : ResponseMock) : String := "'" ++ r.code ++ "': " ++ r.evaluation.source

/-- The text of an endpoint's module. -/
def render (m : EndpointMock) : String :=
  marker ++ "\n" ++ (if m.usesFaker then preamble else "") ++ "\nexport default \x7b\n" ++
    Json.joinWith ",\n" (m.responses.map entry) ++ "\n\x7d;\n"

end MockModule

/-- The file name of an endpoint's module: the method in lower case and the segments of the path,
joined by dashes. -/
def moduleFileName (method path : String) : String :=
  let segments := (Text.split '/' path).filter fun s => !s.isEmpty
  Text.toLower method ++ "-" ++
    (if segments.isEmpty then "root" else Json.joinWith "-" segments) ++ ".js"

end MockApi
