import MockApi.Log
import MockApi.Mock.Heuristic
import MockApi.Mock.Settings
import MockApi.Pattern.Engine
import MockApi.Reference.Response
import MockApi.Schema.Merge

/-! # Compiling schemas

A schema becomes an expression. Of these the first that applies decides: a reference or circular
marker gives null; a rule for the key; an example, where examples are used; an enumeration; `allOf`,
flattened; alternatives; the declared or inferred type.

Compiling also collects the examples that contradict their schemas, and the patterns that cannot be
read. Flattening leaves fewer nodes, where a node with `allOf` counts twice; that count bounds how
often a node is flattened on the way down.
-/

namespace MockApi

/-- A pattern that cannot be read: a key of the rules, or a keyword of the schema. -/
inductive PatternWarning where
  | key (pattern : String)
  | keyword (pattern : String)
deriving DecidableEq, Repr

/-- The log line of a warning. -/
def PatternWarning.line : PatternWarning → LogLine
  | .key pattern => .warn ("Invalid regex pattern found in fakerMap: " ++ pattern)
  | .keyword pattern => .warn ("Invalid regex pattern in your openapi schema found: " ++ pattern)

/-- An expression with what was noticed while compiling it. -/
structure Compiled where
  expression : Expression
  mismatches : List Mismatch := []
  warnings : List PatternWarning := []

/-- What compiling depends on besides the schema. -/
structure Compiler where
  context : Context
  engine : PatternEngine
  /-- The current year. -/
  year : Nat

namespace Compiler

/-- The warnings about the keys of rules. -/
def keyWarnings (c : Compiler) : List PatternWarning :=
  (c.context.rules.keys.filter fun key => !c.engine.accepts key).map .key

/-- The rule for a key: its own, else the first whose key is a pattern that finds a match. -/
def rule? (c : Compiler) (key : String) : Option Rule :=
  (c.context.rules.find? key).or
    ((List.find? (fun r => c.engine.finds r.1 key) c.context.rules).map Prod.snd)

/-- The letters that length bounds ask for; reversed bounds are exchanged. -/
def lettersFor (minLength maxLength : Option Nat) : Capability :=
  match minLength, maxLength with
  | some low, some high => .alpha (some (min low high)) (some (max low high))
  | some low, none => if 0 < low then .alpha (some low) none else .words
  | none, some high => if 0 < high then .alpha none (some high) else .words
  | none, none => .words

/-- The capability of a string: by format, pattern, key and length, in that order. -/
def stringCapability (c : Compiler) (k : Keywords) (key : Option String) :
    Capability × List PatternWarning :=
  match k.format.bind fun f => Capability.ofFormat? f k.pattern with
  | some capability => (capability, [])
  | none =>
    match k.pattern with
    | some pattern =>
      if c.engine.accepts pattern then (.fromRegex pattern, []) else (.words, [.keyword pattern])
    | none =>
      match key.bind Capability.ofStringKey? with
      | some capability => (capability, [])
      | none => (lettersFor k.minLength k.maxLength, [])

/-- A lower bound with its exclusive counterpart taken into account. -/
def lowerBound (bound : Option Float) : Option ExclusiveBound → Float
  | some (.value x) => x + 1
  | some (.flag true) => bound.getD Capability.defaultMin + 1
  | _ => bound.getD Capability.defaultMin

/-- An upper bound with its exclusive counterpart taken into account. -/
def upperBound (bound : Option Float) : Option ExclusiveBound → Float
  | some (.value x) => x - 1
  | some (.flag true) => bound.getD Capability.defaultMax - 1
  | _ => bound.getD Capability.defaultMax

/-- The numbers that bounds ask for; reversed bounds are exchanged. -/
def boundedNumber (k : Keywords) : Capability :=
  let low := lowerBound k.minimum k.exclusiveMinimum
  let high := upperBound k.maximum k.exclusiveMaximum
  let step := (k.multipleOf.filter fun x => 0 < x).getD Capability.defaultStep
  .number (Double.smaller low high) (Double.larger high low) step

/-- The capability of a number: by key, else by its bounds. -/
def numberCapability (c : Compiler) (k : Keywords) (key : Option String) : Capability :=
  (key.bind (Capability.ofNumberKey? c.year)).getD (boundedNumber k)

/-- True of described additional values. -/
def isDescribed : Option (Additional Schema) → Bool
  | some (.schema _) => true
  | _ => false

/-- The declared type, or the one that the other keywords suggest. -/
def typeOf (s : Schema) : SchemaType :=
  s.keywords.type.getD <|
    if s.properties.isSome || isDescribed s.additional then .object
    else if s.items.isSome then .array
    else if s.hasNumericBound then .number
    else .string

/-- What a node that is compiled next is compiled for. -/
structure Site where
  /-- An example given for the whole body. -/
  given : Option Json := none
  key : Option String := none
  /-- Whether the node lies inside the items of an array. -/
  insideArray : Bool := false

/-- The mismatch of a node, where examples are used. -/
def mismatch? (c : Compiler) (s : Schema) (site : Site) : Option Mismatch :=
  if c.context.useExample then
    s.mismatch? site.given site.key c.context.method c.context.path
  else none

/-- The example that stands for a node, where examples are used. Inside arrays a schema's own
example is passed over, so that items differ. -/
def example? (c : Compiler) (s : Schema) (site : Site) : Option Json :=
  if c.context.useExample then
    site.given.or (if site.insideArray then none else s.keywords.exampleValue)
  else none

/-- A choice between the values of a non-empty enumeration. -/
def enumeration? (s : Schema) : Option Expression :=
  (s.keywords.enum.filter fun values => !values.isEmpty).map fun values =>
    .choice (values.map .literal)

/-- What the node itself decides before its sub-schemas are looked at. -/
def decided? (c : Compiler) (s : Schema) (site : Site) : Option Compiled :=
  if s.isMarker then some ⟨.null, [], []⟩
  else match site.key.bind c.rule? with
    | some rule => some ⟨rule.expression, [], []⟩
    | none =>
      let mismatches := (c.mismatch? s site).toList
      match c.example? s site with
      | some value => some ⟨.literal value, mismatches, []⟩
      | none => (enumeration? s).map fun e => ⟨e, mismatches, []⟩

/-- The example of an object without properties or of an array without items. -/
def bareExample (s : Schema) (described : Bool) : Option Json :=
  if described then none else s.keywords.exampleValue

/-- The entry for undeclared properties that are permitted without description. -/
def openEntry : EntryKey Expression × Expression := (.generated (.call .words), .call .words)

mutual

/-- Compiles a node; `again` compiles a flattened one. -/
def compileWith (c : Compiler) (again : Schema → Site → Compiled) : Schema → Site → Compiled
  | s@⟨_, _, keywords, properties, items, additional, allOf, oneOf, anyOf⟩, site =>
    match c.decided? s site with
    | some done => done
    | none =>
      let mismatches := (c.mismatch? s site).toList
      if allOf.isSome then
        let inner := again s.flattenAllOf site
        { inner with mismatches := mismatches ++ inner.mismatches }
      else
        let oneOf := compileBranches c again site.key site.insideArray oneOf
        let anyOf := compileBranches c again site.key site.insideArray anyOf
        match oneOf.or anyOf with
        | some (options, noted, warnings) =>
          ⟨.choice options, mismatches ++ noted, warnings⟩
        | none =>
          match typeOf s with
          | .string =>
            let (capability, warnings) := c.stringCapability keywords site.key
            ⟨.call capability, mismatches, warnings⟩
          | .number => ⟨.call (c.numberCapability keywords site.key), mismatches, []⟩
          | .integer => ⟨.call (c.numberCapability keywords site.key), mismatches, []⟩
          | .boolean => ⟨.call .boolean, mismatches, []⟩
          | .object =>
            match bareExample s (properties.isSome || isDescribed additional) with
            | some value => ⟨.literal value, mismatches, []⟩
            | none =>
              let declared := compileProperties c again site.insideArray properties
              let extra := compileAdditional c again site.insideArray additional
              ⟨.object (declared.1 ++ extra.1), mismatches ++ declared.2.1 ++ extra.2.1,
                declared.2.2 ++ extra.2.2⟩
          | .array =>
            match bareExample s items.isSome with
            | some value => ⟨.literal value, mismatches, []⟩
            | none =>
              let item := compileItems c again site.key items
              ⟨.copies c.context.arrayLength item.expression, mismatches ++ item.mismatches,
                item.warnings⟩
          | .other _ => ⟨.null, mismatches, []⟩

/-- Compiles a list of branches that is present and not empty. -/
def compileBranches (c : Compiler) (again : Schema → Site → Compiled) (key : Option String)
    (insideArray : Bool) :
    Option (List Schema) → Option (List Expression × List Mismatch × List PatternWarning)
  | none => none
  | some [] => none
  | some (first :: rest) => some (compileList c again key insideArray (first :: rest))

/-- Compiles branches in order. -/
def compileList (c : Compiler) (again : Schema → Site → Compiled) (key : Option String)
    (insideArray : Bool) :
    List Schema → List Expression × List Mismatch × List PatternWarning
  | [] => ([], [], [])
  | s :: rest =>
    let head := compileWith c again s ⟨none, key, insideArray⟩
    let tail := compileList c again key insideArray rest
    (head.expression :: tail.1, head.mismatches ++ tail.2.1, head.warnings ++ tail.2.2)

/-- Compiles declared properties. -/
def compileProperties (c : Compiler) (again : Schema → Site → Compiled) (insideArray : Bool) :
    Option (List (String × Schema)) →
      List (EntryKey Expression × Expression) × List Mismatch × List PatternWarning
  | none => ([], [], [])
  | some properties => compileEntries c again insideArray properties

/-- Compiles properties in order. -/
def compileEntries (c : Compiler) (again : Schema → Site → Compiled) (insideArray : Bool) :
    List (String × Schema) →
      List (EntryKey Expression × Expression) × List Mismatch × List PatternWarning
  | [] => ([], [], [])
  | (name, s) :: rest =>
    let head := compileWith c again s ⟨none, some name, insideArray⟩
    let tail := compileEntries c again insideArray rest
    ((.fixed name, head.expression) :: tail.1, head.mismatches ++ tail.2.1,
      head.warnings ++ tail.2.2)

/-- The entry for undeclared properties, when they are permitted. -/
def compileAdditional (c : Compiler) (again : Schema → Site → Compiled) (insideArray : Bool) :
    Option (Additional Schema) →
      List (EntryKey Expression × Expression) × List Mismatch × List PatternWarning
  | none => ([], [], [])
  | some (.flag allowed) => (if allowed then [openEntry] else [], [], [])
  | some (.schema s) =>
    let value := compileWith c again s ⟨none, none, insideArray⟩
    ([(.generated (.call .words), value.expression)], value.mismatches, value.warnings)

/-- Compiles the items of an array; without items they are null. -/
def compileItems (c : Compiler) (again : Schema → Site → Compiled) (key : Option String) :
    Option Schema → Compiled
  | none => ⟨.null, [], []⟩
  | some s => compileWith c again s ⟨none, key, true⟩

end

/-- Compiles a node, flattening at most as often as the number says on the way down. -/
def compileFrom (c : Compiler) : Nat → Schema → Site → Compiled
  | 0, _, _ => ⟨.null, [], []⟩
  | fuel + 1, s, site => compileWith c (c.compileFrom fuel) s site

end Compiler

mutual

/-- The count of nodes of a schema, where a node with `allOf` counts twice. -/
def Schema.weight : Schema → Nat
  | ⟨_, _, _, properties, items, additional, allOf, oneOf, anyOf⟩ =>
    1 + (if allOf.isSome then 1 else 0) + weightOfProperties properties + weightOfItems items +
      weightOfAdditional additional + weightOfBranches allOf + weightOfBranches oneOf +
      weightOfBranches anyOf

/-- The count of nodes in properties. -/
def Schema.weightOfProperties : Option (List (String × Schema)) → Nat
  | none => 0
  | some entries => weightOfEntries entries

/-- The count of nodes in entries. -/
def Schema.weightOfEntries : List (String × Schema) → Nat
  | [] => 0
  | (_, s) :: rest => weight s + weightOfEntries rest

/-- The count of nodes in items. -/
def Schema.weightOfItems : Option Schema → Nat
  | none => 0
  | some s => weight s

/-- The count of nodes in described additional values. -/
def Schema.weightOfAdditional : Option (Additional Schema) → Nat
  | none => 0
  | some (.flag _) => 0
  | some (.schema s) => weight s

/-- The count of nodes in a list of branches. -/
def Schema.weightOfBranches : Option (List Schema) → Nat
  | none => 0
  | some branches => weightOfList branches

/-- The count of nodes in branches. -/
def Schema.weightOfList : List Schema → Nat
  | [] => 0
  | s :: rest => weight s + weightOfList rest

end

namespace Compiler

/-- Compiles a schema; without a schema the value is null. -/
def compile (c : Compiler) (schema : Option Schema) (site : Site) : Compiled :=
  match schema with
  | none => ⟨.null, [], []⟩
  | some s => c.compileFrom (s.weight + 1) s site

/-- Compiles a response body; an example of its media type stands for the whole body. -/
def compileResponse (c : Compiler) (body : Option ResolvedMedia) : Compiled :=
  match body with
  | none => ⟨.null, [], []⟩
  | some m => c.compile (some m.schema) ⟨m.exampleObject.bind ResolvedExample.value?, none, false⟩

end Compiler

end MockApi
