import MockApi.Reference.Basic
import MockApi.Schema.Merge

/-! # Expanding the references of a schema

A node with a reference is replaced by the schema that the reference names, and so on inside it. The
references being expanded around a node are kept; meeting one of them again cuts the chain with a
circular marker. A reference that cannot be followed leaves the empty schema. Nodes with `allOf` are
flattened once their branches are expanded.

On every path down, no reference is expanded twice, so the count of references in the document
bounds how often a path can jump to a component.
-/

namespace MockApi.Reference

mutual

/-- Expands a schema; `follow` says what stands for a reference. -/
def expandWith (follow : String → Resolution Schema) : Schema → Resolution Schema
  | ⟨reference, circular, keywords, properties, items, additional, allOf, oneOf, anyOf⟩ =>
    match reference with
    | some r => follow r
    | none =>
      if circular then
        ⟨⟨none, true, keywords, properties, items, additional, allOf, oneOf, anyOf⟩, []⟩
      else
        let properties := expandProperties follow properties
        let items := expandItems follow items
        let additional := expandAdditional follow additional
        let oneOf := expandBranches follow oneOf
        let anyOf := expandBranches follow anyOf
        let branches := expandBranches follow allOf
        let node : Schema := {
          keywords := keywords
          properties := properties.value
          items := items.value
          additional := additional.value
          allOf := branches.value
          oneOf := oneOf.value
          anyOf := anyOf.value }
        ⟨if branches.value.isSome then node.flattenAllOf else node,
          properties.findings ++ items.findings ++ additional.findings ++ oneOf.findings ++
            anyOf.findings ++ branches.findings⟩

/-- Expands properties. -/
def expandProperties (follow : String → Resolution Schema) :
    Option (List (String × Schema)) → Resolution (Option (List (String × Schema)))
  | none => ⟨none, []⟩
  | some entries => (expandEntries follow entries).map some

/-- Expands the schemas of entries. -/
def expandEntries (follow : String → Resolution Schema) :
    List (String × Schema) → Resolution (List (String × Schema))
  | [] => ⟨[], []⟩
  | (name, schema) :: rest =>
    (((expandWith follow schema).map fun s => (name, s)).zip List.cons) (expandEntries follow rest)

/-- Expands items. -/
def expandItems (follow : String → Resolution Schema) :
    Option Schema → Resolution (Option Schema)
  | none => ⟨none, []⟩
  | some schema => (expandWith follow schema).map some

/-- Expands described additional values. -/
def expandAdditional (follow : String → Resolution Schema) :
    Option (Additional Schema) → Resolution (Option (Additional Schema))
  | none => ⟨none, []⟩
  | some (.flag allowed) => ⟨some (.flag allowed), []⟩
  | some (.schema schema) => (expandWith follow schema).map fun s => some (.schema s)

/-- Expands a list of branches. -/
def expandBranches (follow : String → Resolution Schema) :
    Option (List Schema) → Resolution (Option (List Schema))
  | none => ⟨none, []⟩
  | some branches => (expandList follow branches).map some

/-- Expands branches. -/
def expandList (follow : String → Resolution Schema) : List Schema → Resolution (List Schema)
  | [] => ⟨[], []⟩
  | schema :: rest => (expandWith follow schema).zip List.cons (expandList follow rest)

end

/-- What stands for a reference, inside the expansion of the references on the stack. -/
def expandReference (schemas : Entries Schema) : Nat → List String → String → Resolution Schema
  | 0, _, _ => ⟨Schema.empty, []⟩
  | fuel + 1, stack, reference =>
    if reference ∈ stack then .broken Schema.cut (.circular reference) .warning
    else match find .schemas schemas reference with
      | .error problem => .broken Schema.empty problem .error
      | .ok target =>
        expandWith (expandReference schemas fuel (reference :: stack)) target

mutual

/-- The references that the nodes of a schema carry. -/
def targets : Schema → List String
  | ⟨reference, _, _, properties, items, additional, allOf, oneOf, anyOf⟩ =>
    reference.toList ++ targetsOfProperties properties ++ targetsOfItems items ++
      targetsOfAdditional additional ++ targetsOfBranches allOf ++ targetsOfBranches oneOf ++
      targetsOfBranches anyOf

/-- The references inside properties. -/
def targetsOfProperties : Option (List (String × Schema)) → List String
  | none => []
  | some entries => targetsOfEntries entries

/-- The references inside entries. -/
def targetsOfEntries : List (String × Schema) → List String
  | [] => []
  | (_, schema) :: rest => targets schema ++ targetsOfEntries rest

/-- The references inside items. -/
def targetsOfItems : Option Schema → List String
  | none => []
  | some schema => targets schema

/-- The references inside described additional values. -/
def targetsOfAdditional : Option (Additional Schema) → List String
  | none => []
  | some (.flag _) => []
  | some (.schema schema) => targets schema

/-- The references inside a list of branches. -/
def targetsOfBranches : Option (List Schema) → List String
  | none => []
  | some branches => targetsOfList branches

/-- The references inside branches. -/
def targetsOfList : List Schema → List String
  | [] => []
  | schema :: rest => targets schema ++ targetsOfList rest

end

/-- The references of a schema and of all components, with repetitions. -/
def allTargets (schemas : Entries Schema) (schema : Schema) : List String :=
  targets schema ++ targetsOfEntries schemas

/-- Expands every reference of a schema. -/
def expand (schemas : Entries Schema) (schema : Schema) : Resolution Schema :=
  expandWith (expandReference schemas ((allTargets schemas schema).length + 1) []) schema

end MockApi.Reference
