import MockApi.Proofs.Schema.Children

/-! # Rewriting schemas from the top

A rewriting says of a node what stands for it, or leaves it to its children. What stands for a node
is not looked at again.
-/

namespace MockApi.Schema

mutual

/-- Puts what `replace` gives for a node in its place, and where it gives nothing goes on with the
children. -/
def rewrite (replace : Schema → Option Schema) : Schema → Schema
  | ⟨reference, circular, keywords, properties, items, additional, allOf, oneOf, anyOf⟩ =>
    (replace ⟨reference, circular, keywords, properties, items, additional, allOf, oneOf,
      anyOf⟩).getD
      { reference := reference
        circular := circular
        keywords := keywords
        properties := rewriteProperties replace properties
        items := rewriteItems replace items
        additional := rewriteAdditional replace additional
        allOf := rewriteBranches replace allOf
        oneOf := rewriteBranches replace oneOf
        anyOf := rewriteBranches replace anyOf }

/-- Rewrites properties. -/
def rewriteProperties (replace : Schema → Option Schema) :
    Option (List (String × Schema)) → Option (List (String × Schema))
  | none => none
  | some entries => some (rewriteEntries replace entries)

/-- Rewrites the schemas of entries. -/
def rewriteEntries (replace : Schema → Option Schema) :
    List (String × Schema) → List (String × Schema)
  | [] => []
  | (name, s) :: rest => (name, rewrite replace s) :: rewriteEntries replace rest

/-- Rewrites items. -/
def rewriteItems (replace : Schema → Option Schema) : Option Schema → Option Schema
  | none => none
  | some s => some (rewrite replace s)

/-- Rewrites described additional values. -/
def rewriteAdditional (replace : Schema → Option Schema) :
    Option (Additional Schema) → Option (Additional Schema)
  | none => none
  | some (.flag allowed) => some (.flag allowed)
  | some (.schema s) => some (.schema (rewrite replace s))

/-- Rewrites a list of branches. -/
def rewriteBranches (replace : Schema → Option Schema) :
    Option (List Schema) → Option (List Schema)
  | none => none
  | some branches => some (rewriteList replace branches)

/-- Rewrites branches. -/
def rewriteList (replace : Schema → Option Schema) : List Schema → List Schema
  | [] => []
  | s :: rest => rewrite replace s :: rewriteList replace rest

end

variable (replace : Schema → Option Schema)

theorem rewriteEntries_eq (entries : List (String × Schema)) :
    rewriteEntries replace entries = entries.map fun e => (e.1, rewrite replace e.2) := by
  induction entries with
  | nil => rw [rewriteEntries]; rfl
  | cons e rest ih =>
      rcases e with ⟨name, s⟩
      rw [rewriteEntries, ih]
      rfl

theorem rewriteList_eq (branches : List Schema) :
    rewriteList replace branches = branches.map (rewrite replace) := by
  induction branches with
  | nil => rw [rewriteList]; rfl
  | cons s rest ih =>
      rw [rewriteList, ih]
      rfl

theorem rewriteBranches_eq (list : Option (List Schema)) :
    rewriteBranches replace list = list.map fun branches => branches.map (rewrite replace) := by
  cases list with
  | none => rw [rewriteBranches]; rfl
  | some branches => rw [rewriteBranches, rewriteList_eq]; rfl

/-- A node is replaced, or its children are rewritten. -/
theorem rewrite_eq (s : Schema) :
    rewrite replace s = (replace s).getD (s.mapChildren (rewrite replace)) := by
  rcases s with ⟨reference, circular, keywords, properties, items, additional, allOf, oneOf, anyOf⟩
  have hproperties : rewriteProperties replace properties =
      properties.map fun entries => entries.map fun e => (e.1, rewrite replace e.2) := by
    cases properties with
    | none => rw [rewriteProperties]; rfl
    | some entries => rw [rewriteProperties, rewriteEntries_eq]; rfl
  have hitems : rewriteItems replace items = items.map (rewrite replace) := by
    cases items <;> rw [rewriteItems] <;> rfl
  rw [rewrite, hproperties, hitems, rewriteBranches_eq, rewriteBranches_eq, rewriteBranches_eq]
  rcases additional with _ | _ | _ <;> rw [rewriteAdditional] <;> rfl

theorem rewrite_of_some {s t : Schema} (h : replace s = some t) : rewrite replace s = t := by
  rw [rewrite_eq, h, Option.getD_some]

theorem rewrite_of_none {s : Schema} (h : replace s = none) :
    rewrite replace s = s.mapChildren (rewrite replace) := by
  rw [rewrite_eq, h, Option.getD_none]

end MockApi.Schema
