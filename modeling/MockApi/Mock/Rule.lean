import MockApi.Mock.Expression

/-! # Override rules

A rule fixes how the values of one property key are made up. Rules come from a configuration as
JSON: a text that calls the faker library is a generator call, any other value a literal. Programs
may add producers of their own.

Merging rules lays one map over another. Keys keep their place, new keys go to the end. Two literals
merge member by member; otherwise the upper rule replaces the lower one.
-/

namespace MockApi

/-- How to make up the values of a key. -/
inductive Rule where
  | literal (value : Json)
  | generator (source : String)
  | custom (producer : Producer)

namespace Rule

/-- The front of generator calls. -/
def callLead : List Char := "faker.".toList

/-- The rule that a JSON value stands for. -/
def ofJson : Json → Rule
  | .string text =>
    if callLead.isPrefixOf text.toList then .generator text else .literal (.string text)
  | value => .literal value

/-- The JSON of a rule; a producer is written as its source. -/
def toJson : Rule → Json
  | .literal value => value
  | .generator source => .string source
  | .custom producer => .string producer.source

/-- The expression of a rule. -/
def expression : Rule → Expression
  | .literal value => .literal value
  | .generator source => .generator source
  | .custom producer => .custom producer

end Rule

namespace Json

mutual

/-- Lays the second value over the first: objects merge member by member, anything else is
replaced. -/
def overlay : Json → Json → Json
  | .object lower, .object upper => .object (overlayMembers lower upper)
  | _, upper => upper

/-- Adds members one by one: a known one is merged in place, a new one goes to the end. -/
def overlayMembers : List (String × Json) → List (String × Json) → List (String × Json)
  | lower, [] => lower
  | lower, (key, value) :: rest =>
    let merged := match lower.lookup key with
      | some existing => overlay existing value
      | none => value
    overlayMembers (Entries.insert lower key merged) rest

end

end Json

/-- Rules by key or key pattern, in declared order. -/
abbrev Rules := Entries Rule

namespace Rules

/-- The upper rule, merged with the one it meets when both are literals. -/
def combine (lower : Option Rule) (upper : Rule) : Rule :=
  match lower, upper with
  | some (.literal existing), .literal value => .literal (existing.overlay value)
  | _, upper => upper

/-- Lays rules over rules. -/
def merged (lower upper : Rules) : Rules :=
  upper.foldl (fun acc r => Entries.alter r.1 (combine · r.2) acc) lower

/-- The JSON object of rules. -/
def toJson (rules : Rules) : Json := .object (rules.mapValues Rule.toJson)

end Rules

end MockApi
