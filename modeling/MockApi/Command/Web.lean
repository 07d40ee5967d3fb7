import MockApi.Spec.Parse
import MockApi.Text.Search

/-! # The web

An API document may lie on the web. What the web holds is not known here: which texts are addresses
and what is answered to a request comes from outside, and everything else is said for any web. A
document is taken from an answer that tells success. It is YAML when the content type or the name in
the address says so.
-/

namespace MockApi

/-- The format that the name of a file asks for; other names leave it to the text. -/
def Spec.TextFormat.ofPath? (path : String) : Option TextFormat :=
  let reversed := path.toList.reverse
  if ".yaml".toList.reverse.isPrefixOf reversed || ".yml".toList.reverse.isPrefixOf reversed then
    some .yaml
  else none

/-- Why a request gives no document, in the words of who sends it. -/
inductive WebFault where
  /-- No request can be sent at all. -/
  | sender (reason : String)
  | fetch (reason : String)
deriving DecidableEq, Repr

/-- The wording of a failed request. -/
def WebFault.message : WebFault → String
  | .sender reason => "HTTP error: " ++ reason
  | .fetch reason => "Failed to fetch OpenAPI spec: " ++ reason

/-- An answer from the web. -/
structure WebAnswer where
  status : Nat
  /-- The status as it is told: its number and its name. -/
  statusText : String
  /-- The content type, empty where none is told. -/
  contentType : String
  /-- The text, or why it cannot be read to its end. -/
  text : Except String String

namespace WebAnswer

/-- True of the numbers for success. -/
def isSuccess (a : WebAnswer) : Bool := 200 ≤ a.status && a.status < 300

/-- The format of a text that was found under the path of an address. -/
def format? (a : WebAnswer) (path : String) : Option Spec.TextFormat :=
  if Text.contains "yaml".toList a.contentType.toList then some .yaml
  else Spec.TextFormat.ofPath? path

end WebAnswer

/-- The web as a run finds it. -/
structure Web where
  /-- The path in an address, for texts that are one. -/
  path? : String → Option String
  /-- The answer to a request. -/
  ask : String → Except WebFault WebAnswer

namespace Web

/-- A web in which no text is an address. -/
def none : Web := ⟨fun _ => .none, fun _ => .error (.sender "no web")⟩

/-- The text at an address and its format, as far as it is told; nothing when the text is no
address. -/
def fetch? (web : Web) (address : String) :
    Option (Except WebFault (Option Spec.TextFormat × String)) :=
  (web.path? address).map fun path =>
    match web.ask address with
    | .error fault => .error fault
    | .ok answer =>
      if !answer.isSuccess then
        .error (.fetch ("HTTP " ++ answer.statusText ++ " from " ++ address))
      else match answer.text with
        | .error reason => .error (.fetch reason)
        | .ok text => .ok (answer.format? path, text)

end Web

end MockApi
