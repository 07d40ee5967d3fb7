import MockApi.Log
import MockApi.Spec.Basic
import MockApi.Text.Search

/-! # References to components

A reference names a section of the components and an item in it. In the name, `~1` stands for a
slash and `~0` for a tilde. What cannot be followed is a problem; problems are recorded and never
end a run.
-/

namespace MockApi

/-- The sections of the components that references point into. -/
inductive Section where
  | schemas
  | responses
  | examples
deriving DecidableEq, Repr

/-- The word for a section. -/
def Section.name : Section → String
  | .schemas => "schemas"
  | .responses => "responses"
  | .examples => "examples"

namespace Reference

/-- What can be wrong with a reference. -/
inductive Problem where
  | malformed (reference : String)
  | missing (part : Section) (reference : String)
  | circular (reference : String)
deriving DecidableEq, Repr

namespace Problem

/-- The wording of a problem. -/
def message : Problem → String
  | .malformed reference => "Malformed reference: " ++ reference
  | .missing part reference =>
    "Reference not found in components/" ++ part.name ++ ": " ++ reference
  | .circular reference => "Circular reference detected: " ++ reference

/-- Circular references only cut the output short. -/
def isWarning : Problem → Bool
  | .circular _ => true
  | _ => false

end Problem

/-- A problem and the weight it was logged with. -/
structure Finding where
  problem : Problem
  severity : Severity
deriving DecidableEq, Repr

/-- The log line of a finding. -/
def Finding.line (f : Finding) : LogLine := ⟨f.severity, f.problem.message⟩

/-- A value and what was found wrong on the way to it, in order. -/
structure Resolution (α : Type) where
  value : α
  findings : List Finding := []

namespace Resolution

variable {α β γ : Type}

/-- The problems alone. -/
def problems (r : Resolution α) : List Problem := r.findings.map Finding.problem

/-- Changes the value. -/
def map (f : α → β) (r : Resolution α) : Resolution β := ⟨f r.value, r.findings⟩

/-- Joins two values; the findings of the first come first. -/
def zip (f : α → β → γ) (a : Resolution α) (b : Resolution β) : Resolution γ :=
  ⟨f a.value b.value, a.findings ++ b.findings⟩

/-- Resolves every item of a list. -/
def forEach (f : α → Resolution β) : List α → Resolution (List β)
  | [] => ⟨[], []⟩
  | x :: rest => zip List.cons (f x) (forEach f rest)

/-- Resolves the value of every entry. -/
def forEntries (f : α → Resolution β) (xs : Entries α) : Resolution (Entries β) :=
  forEach (fun x => (f x.2).map fun y => (x.1, y)) xs

/-- A value in whose place a problem was found. -/
def broken (value : α) (problem : Problem) (severity : Severity) : Resolution α :=
  ⟨value, [⟨problem, severity⟩]⟩

end Resolution

/-- Replaces the escapes for a slash and then those for a tilde. -/
def unescapeSegment (cs : List Char) : List Char :=
  Text.replace ['~', '0'] ['~'] (Text.replace ['~', '1'] ['/'] cs)

/-- The front of every reference into the components. -/
def lead : List Char := "#/components/".toList

/-- The name of the item that a reference into a section points at. -/
def name? (part : Section) (reference : String) : Option String := do
  match Text.splitAt '/' (← Text.after? lead reference.toList) with
  | [kind, segment] =>
    if kind == part.name.toList && !segment.isEmpty then
      some (String.ofList (unescapeSegment segment))
    else none
  | _ => none

/-- The item that a reference points at. -/
def find {α : Type} (part : Section) (items : Entries α) (reference : String) :
    Except Problem α :=
  match name? part reference with
  | none => .error (.malformed reference)
  | some name =>
    match items.find? name with
    | some item => .ok item
    | none => .error (.missing part reference)

end Reference

end MockApi
