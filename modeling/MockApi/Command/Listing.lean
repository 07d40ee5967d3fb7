import MockApi.Command.Config
import MockApi.Spec.Group

/-! # Listing endpoints

The API document of a configuration is read from its file or fetched from the web. Its endpoints
are listed by group.
-/

namespace MockApi

namespace Command

/-- Fetches an API document from the web. -/
def fetchDocument (address : String) : Command (Except Spec.ParseError ApiDocument) := do
  match (← get).web.fetch? address with
  | none => return .error .invalidAddress
  | some (.ok (format, text)) => return Spec.parse format text
  | some (.error fault) => throw (.failed .load address fault.message)

/-- Reads an API document from a path name, or from an address on the web. -/
def document (path : String) : Command (Except Spec.ParseError ApiDocument) := do
  if isWebAddress path then fetchDocument path
  else match ← text? path with
    | some text => return Spec.parse (Spec.TextFormat.ofPath? path) text
    | none => return .error .unreadableFile

/-- Reads the API document of a configuration. -/
def documentOf (settingsPath : String) (s : Settings) : Command ApiDocument := do
  let path := besideSettings settingsPath s.specPath
  match ← document path with
  | .ok d => return d
  | .error cause => throw (.spec path cause)

/-- The groups of the configured document by label, each with its endpoints. -/
def list (settingsPath : String) : Command (List (String × List String)) := do
  let s ← Settings.load settingsPath
  let d ← documentOf settingsPath s
  return (Spec.group d.endpoints).map fun (label, endpoints) =>
    (label, endpoints.map Endpoint.title)

end Command
end MockApi
