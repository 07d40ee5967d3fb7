import MockApi.Proofs.Mock.Steps

/-! # Compiling ends

Nodes that are compiled next are smaller, counted in nodes and in nodes with `allOf`. That holds of
children and also of a flattened node, which is made anew and may have an `allOf` of its own:
merging loses a node wherever it meets two, and flattening takes a list of branches off even when
the list is empty. So the steps have one solution, which is what compiling gives.
-/

namespace MockApi

namespace Schema

/-! ## Counting nodes -/

/-- The nodes of a schema, each before those below it. -/
def nodes (s : Schema) : List Schema :=
  s :: s.children.attach.flatMap fun t => nodes t.1
termination_by sizeOf s
decreasing_by exact sizeOf_lt_of_mem_children _ t.2

theorem nodes_eq (s : Schema) : s.nodes = s :: s.children.flatMap nodes := by
  rw [nodes, List.flatMap_subtype fun _ _ => rfl, List.unattach_attach]

/-- The number of nodes and of nodes with `allOf` together. -/
def measure (s : Schema) : Nat := s.nodes.length + s.nodes.countP (·.allOf.isSome)

theorem measure_eq (s : Schema) :
    s.measure = 1 + (if s.allOf.isSome then 1 else 0) + (s.children.map measure).sum := by
  have hsum : (s.children.map measure).sum = (s.children.flatMap nodes).length +
      (s.children.flatMap nodes).countP (·.allOf.isSome) := by
    induction s.children with
    | nil => rfl
    | cons t rest ih =>
        rw [List.map_cons, List.sum_cons, ih, List.flatMap_cons, List.length_append,
          List.countP_append, measure]
        omega
  rw [measure, nodes_eq, List.length_cons, List.countP_cons, hsum]
  omega

/-- The weight counts nodes, and nodes with `allOf` twice. -/
theorem weight_eq_measure (s : Schema) : s.weight = s.measure := by
  induction s using childInduction with
  | step s ih => rw [weight_eq_sum, measure_eq, List.map_congr_left ih]

end Schema

namespace Compiler

open Schema

/-- Whatever takes the same steps gives the same. -/
theorem eq_compile_iff (c : Compiler) (f : Schema → Site → Compiled) :
    (∀ s site, f s site = c.step s site f) ↔ f = fun s => c.compile (some s) := by
  constructor
  · intro hsteps
    funext s site
    induction s, site using c.callInduction with
    | step s site ih =>
        rw [hsteps, compile_eq_step]
        exact step_congr ih
  · rintro rfl
    exact compile_eq_step c

/-- Compiling ends. A flattened node counts less than the node, whatever was in its `allOf`, and so
does every node that is compiled next. There is therefore no endless chain of them, and one thing
alone takes the steps: what compiling gives. -/
theorem measure_lt_and_compile_unique (c : Compiler) :
    (∀ s : Schema, s.allOf.isSome → s.flattenAllOf.measure < s.measure) ∧
    (∀ s site, ∀ call ∈ c.calls s site, call.1.measure < s.measure) ∧
    WellFounded c.IsCalledBy ∧
    ∀ f, (∀ s site, f s site = c.step s site f) ↔ f = fun s => c.compile (some s) := by
  simp only [← weight_eq_measure]
  exact ⟨fun _ => weight_flattenAllOf_lt, fun _ _ _ => weight_lt_of_mem_calls,
    wellFounded_isCalledBy c, eq_compile_iff c⟩

/-- An empty `allOf` below another: the first flattening keeps it. -/
def emptyBranches : Schema := { allOf := some [{ allOf := some [] }] }

theorem measure_lt_and_compile_unique_emptyBranches :
    emptyBranches.flattenAllOf.allOf = some [] ∧
    emptyBranches.flattenAllOf.measure < emptyBranches.measure ∧
    emptyBranches.flattenAllOf.flattenAllOf.measure < emptyBranches.flattenAllOf.measure := by
  obtain ⟨hlt, -⟩ := measure_lt_and_compile_unique
    ⟨⟨"/labels", .get, 5, false, false, []⟩, ⟨fun _ => none⟩, 2024⟩
  have hkept : emptyBranches.flattenAllOf.allOf = some [] := by
    simp [flattenAllOf, mergeAll, emptyBranches, ownPart, merge_allOf]
  exact ⟨hkept, hlt _ rfl, hlt _ (Option.isSome_of_mem hkept)⟩

end Compiler

end MockApi
