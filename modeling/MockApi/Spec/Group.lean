import MockApi.Spec.Basic
import MockApi.Text.Case
import MockApi.Text.Digit
import MockApi.Text.Search
import MockApi.Json.Printer

/-! # Endpoint groups

Tagged endpoints are grouped by their tags, the others by the first segment of their path that says
something. Groups of tags come first; inside a group endpoints keep the order of the document.
-/

namespace MockApi.Spec

/-- A version segment: the letter and digits of any script. -/
def isVersionSegment (s : String) : Bool :=
  match s.toList with
  | 'v' :: digits => !digits.isEmpty && digits.all Text.isAnyDigit
  | _ => false

/-- The first segment of a path that is neither `api` nor a version, else the first segment. -/
def leadingSegment (path : String) : String :=
  let segments := (Text.split '/' path).filter fun s => !s.isEmpty
  let telling := segments.find? fun s =>
    let lower := Text.toLower s
    !isVersionSegment lower && lower != "api"
  (telling.or segments.head?).getD ""

/-- The label of an endpoint's group. -/
def groupLabel (e : Endpoint) : String :=
  if e.tags.isEmpty then "Group(by prefix): " ++ leadingSegment e.path
  else "Group(by tags): " ++ Json.joinWith "/" e.tags

/-- Endpoints by the labels of their groups. -/
abbrev Groups := Entries (List Endpoint)

/-- Puts an endpoint at the end of its group. -/
def Groups.add (groups : Groups) (e : Endpoint) : Groups :=
  Entries.alter (groupLabel e) (fun members => members.getD [] ++ [e]) groups

/-- The groups of a list of endpoints. -/
def group (endpoints : List Endpoint) : Groups :=
  let (untagged, tagged) := endpoints.partition fun e => e.tags.isEmpty
  (tagged ++ untagged).foldl Groups.add []

/-- True when the lower case text contains the lower case word. -/
def containsIgnoringCase (word text : String) : Bool :=
  Text.contains (Text.toLower word).toList (Text.toLower text).toList

/-- The endpoints of every group whose label contains a word, in either case. -/
def Groups.matching (groups : Groups) (word : String) : List Endpoint :=
  (groups.filter fun (label, _) => containsIgnoringCase word label).flatMap Prod.snd

/-- Which endpoints to take: those of groups whose label contains a word, and of these the ones
whose path contains a word. -/
structure Selection where
  group : Option String := none
  path : Option String := none
deriving DecidableEq, Repr

/-- The endpoints that a selection takes. -/
def Selection.apply (s : Selection) (endpoints : List Endpoint) : List Endpoint :=
  let candidates := match s.group with
    | some word => (Spec.group endpoints).matching word
    | none => endpoints
  match s.path with
  | some word => candidates.filter fun e => containsIgnoringCase word e.path
  | none => candidates

end MockApi.Spec
