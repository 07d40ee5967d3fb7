import Mathlib.Algebra.Order.BigOperators.Group.List
import Mathlib.Algebra.Order.Ring.Nat
import MockApi.Mock.Compile
import MockApi.Proofs.Schema.Merge

/-! # The weight of a schema

Merging two schemas leaves at least one node less than they have together, so flattening a node
makes it lighter. The weight of a schema therefore bounds how often a node is flattened on the way
down.
-/

namespace MockApi

namespace Schema

theorem weight_eq (s : Schema) :
    s.weight = 1 + (if s.allOf.isSome then 1 else 0) + weightOfProperties s.properties +
      weightOfItems s.items + weightOfAdditional s.additional + weightOfBranches s.allOf +
      weightOfBranches s.oneOf + weightOfBranches s.anyOf := by
  cases s
  rw [weight]

/-! ## Children -/

theorem weightOfEntries_eq_sum (entries : List (String × Schema)) :
    weightOfEntries entries = (entries.map fun e => e.2.weight).sum := by
  induction entries with
  | nil => rw [weightOfEntries]; rfl
  | cons e rest ih => rw [weightOfEntries, ih, List.map_cons, List.sum_cons]

theorem weightOfList_eq_sum (list : List Schema) :
    weightOfList list = (list.map weight).sum := by
  induction list with
  | nil => rw [weightOfList]; rfl
  | cons s rest ih => rw [weightOfList, ih, List.map_cons, List.sum_cons]

theorem weightOfBranches_eq_sum (list : Option (List Schema)) :
    weightOfBranches list = ((list.getD []).map weight).sum := by
  cases list with
  | none => rw [weightOfBranches]; rfl
  | some branches => rw [weightOfBranches, weightOfList_eq_sum, Option.getD_some]

/-- The weight of a node is its own share and the weights of its children. -/
theorem weight_eq_sum (s : Schema) :
    s.weight = 1 + (if s.allOf.isSome then 1 else 0) + (s.children.map weight).sum := by
  have hproperties : weightOfProperties s.properties =
      (((s.properties.getD []).map Prod.snd).map weight).sum := by
    cases s.properties with
    | none => rw [weightOfProperties]; rfl
    | some entries =>
        rw [weightOfProperties, weightOfEntries_eq_sum, Option.getD_some, List.map_map]
        rfl
  have hitems : weightOfItems s.items = (s.items.toList.map weight).sum := by
    cases s.items <;> simp [weightOfItems]
  have hadditional : weightOfAdditional s.additional =
      ((described s.additional).map weight).sum := by
    rcases s.additional with _ | _ | _ <;> simp [weightOfAdditional, described]
  rw [weight_eq, hproperties, hitems, hadditional, weightOfBranches_eq_sum,
    weightOfBranches_eq_sum, weightOfBranches_eq_sum, children]
  simp only [List.map_append, List.sum_append]
  omega

theorem weight_lt_of_mem_children {s : Schema} : ∀ t ∈ s.children, t.weight < s.weight := by
  intro t ht
  have hle : t.weight ≤ (s.children.map weight).sum :=
    List.le_sum_of_mem (List.mem_map_of_mem ht)
  rw [weight_eq_sum s]
  omega

/-! ## Merging -/

theorem weightOfEntries_insert (entries : List (String × Schema)) (name : String) (s : Schema) :
    weightOfEntries (Entries.insert entries name s) +
        weightOfItems (entries.lookup name) = weightOfEntries entries + s.weight := by
  induction entries with
  | nil =>
      rw [Entries.insert, Entries.alter]
      simp [weightOfEntries, weightOfItems]
  | cons e rest ih =>
      rcases e with ⟨k, t⟩
      rw [Entries.insert] at ih ⊢
      rw [Entries.alter, List.lookup_cons]
      by_cases hk : k = name
      · simp only [hk, if_true, beq_self_eq_true, weightOfEntries, weightOfItems]
        omega
      · rw [if_neg hk, beq_false_of_ne (Ne.symm hk), weightOfEntries, weightOfEntries]
        dsimp only
        omega

theorem weightOfEntries_mergeEntries_le (lower : List (String × Schema))
    {upper : List (String × Schema)}
    (h : ∀ x, ∀ e ∈ upper, (merge x e.2).weight < x.weight + e.2.weight) :
    weightOfEntries (mergeEntries lower upper) ≤ weightOfEntries lower + weightOfEntries upper := by
  induction upper generalizing lower with
  | nil =>
      rw [mergeEntries]
      omega
  | cons e rest ih =>
      rcases e with ⟨name, s⟩
      rw [mergeEntries, weightOfEntries]
      refine Nat.le_trans (ih _ fun x e he => h x e (List.mem_cons_of_mem _ he)) ?_
      cases hlookup : lower.lookup name with
      | none =>
          have hinsert := weightOfEntries_insert lower name s
          dsimp only
          omega
      | some x =>
          have hinsert := weightOfEntries_insert lower name (merge x s)
          have hlt := h x (name, s) List.mem_cons_self
          rw [hlookup, weightOfItems] at hinsert
          dsimp only at hlt ⊢
          omega

theorem weightOfProperties_merge_le (lower : Option (List (String × Schema)))
    {upper : Option (List (String × Schema))}
    (h : ∀ x, ∀ e ∈ upper.getD [], (merge x e.2).weight < x.weight + e.2.weight) :
    weightOfProperties (mergeProperties lower upper) ≤
      weightOfProperties lower + weightOfProperties upper := by
  cases upper with
  | none => simp only [mergeProperties, weightOfProperties, Nat.add_zero, Nat.le_refl]
  | some entries =>
      have hentries := weightOfEntries_mergeEntries_le (lower.getD []) h
      cases lower with
      | none => simpa [mergeProperties, weightOfProperties, weightOfEntries] using hentries
      | some entries' => simpa [mergeProperties, weightOfProperties] using hentries

theorem weightOfItems_merge_le (lower : Option Schema) {upper : Option Schema}
    (h : ∀ x, ∀ t ∈ upper.toList, (merge x t).weight < x.weight + t.weight) :
    weightOfItems (mergeItems lower upper) ≤ weightOfItems lower + weightOfItems upper := by
  rcases upper with _ | y <;> rcases lower with _ | x <;> simp only [mergeItems, weightOfItems] <;>
    try omega
  exact Nat.le_of_lt (h x y (by simp))

theorem weightOfAdditional_merge_le (lower : Option (Additional Schema))
    {upper : Option (Additional Schema)}
    (h : ∀ x, ∀ t ∈ described upper, (merge x t).weight < x.weight + t.weight) :
    weightOfAdditional (mergeAdditional lower upper) ≤
      weightOfAdditional lower + weightOfAdditional upper := by
  rcases upper with _ | ⟨_⟩ | ⟨y⟩ <;> rcases lower with _ | ⟨_⟩ | ⟨x⟩ <;>
    simp only [mergeAdditional, weightOfAdditional] <;> try omega
  exact Nat.le_of_lt (h x y (by simp [described]))

theorem weightOfBranches_or_le (upper lower : Option (List Schema)) :
    weightOfBranches (upper.or lower) ≤ weightOfBranches lower + weightOfBranches upper := by
  cases upper with
  | none => simp
  | some branches => simp

/-- A merged schema has at least one node less than both sides together. -/
theorem weight_merge_lt (a b : Schema) : (merge a b).weight < a.weight + b.weight := by
  induction b using childInduction generalizing a with
  | step b ih =>
      have hchildren := fun x => forall_mem_children_iff.mp fun t ht => ih t ht x
      have hproperties := weightOfProperties_merge_le a.properties fun x => (hchildren x).1
      have hitems := weightOfItems_merge_le a.items fun x => (hchildren x).2.1
      have hadditional := weightOfAdditional_merge_le a.additional fun x =>
        (hchildren x).2.2.1
      have hallOf := weightOfBranches_or_le b.allOf a.allOf
      have honeOf := weightOfBranches_or_le b.oneOf a.oneOf
      have hanyOf := weightOfBranches_or_le b.anyOf a.anyOf
      rw [weight_eq (merge a b), weight_eq a, weight_eq b, merge_properties, merge_items,
        merge_additional, merge_allOf, merge_oneOf, merge_anyOf, Option.isSome_or]
      cases b.allOf.isSome <;> cases a.allOf.isSome <;> simp <;> omega

theorem weight_foldl_merge_le (start : Schema) (list : List Schema) :
    (list.foldl merge start).weight + list.length ≤ start.weight + weightOfList list := by
  induction list generalizing start with
  | nil => simp [weightOfList]
  | cons s rest ih =>
      have hrest := ih (merge start s)
      have hlt := weight_merge_lt start s
      rw [List.foldl_cons, List.length_cons, weightOfList]
      omega

theorem weightOfList_concat (list : List Schema) (s : Schema) :
    weightOfList (list ++ [s]) = weightOfList list + s.weight := by
  rw [weightOfList_eq_sum, weightOfList_eq_sum, List.map_append, List.sum_append]
  simp

theorem weight_flattenAllOf_lt {s : Schema} (h : s.allOf.isSome) :
    s.flattenAllOf.weight < s.weight := by
  obtain ⟨branches, hallOf⟩ := Option.isSome_iff_exists.mp h
  have hmerged := weight_foldl_merge_le empty (branches ++ [s.ownPart])
  have hempty : empty.weight = 1 := by decide
  have hown : s.weight = s.ownPart.weight + 1 + weightOfList branches := by
    rw [weight_eq s, weight_eq s.ownPart, hallOf]
    simp [ownPart, weightOfBranches]
    omega
  rw [weightOfList_concat, List.length_append, List.length_singleton, hempty] at hmerged
  rw [flattenAllOf, hallOf, Option.getD_some, mergeAll, hown]
  omega

end Schema

end MockApi
