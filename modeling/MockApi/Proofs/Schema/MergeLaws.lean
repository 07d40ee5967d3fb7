import Mathlib.Data.List.Induction
import MockApi.Proofs.Schema.Layers

/-! # Laws of merging

The empty schema is a unit of merging on both sides. Laying a schema over others a second time, on
top of itself, changes nothing. A part of a list may be merged on its own before it is merged into
the list, when no schema in it has a flag for undeclared properties.
-/

namespace MockApi

open Entries

theorem Keywords.overlay_empty (k : Keywords) : k.overlay {} = k := by
  simp [overlay]

theorem Keywords.overlay_overlay_self (a b : Keywords) :
    (a.overlay b).overlay b = a.overlay b := by
  simp [overlay, ← Option.or_assoc]

namespace Schema

@[simp] theorem merge_empty (s : Schema) : merge s empty = s := by
  cases s
  simp [empty, merge, mergeProperties, mergeItems, mergeAdditional, Keywords.overlay_empty]

/-! ## One schema twice -/

theorem mergeEntries_mergeEntries_self {a b : Entries Schema} (ha : a.keys.Nodup)
    (hb : b.keys.Nodup)
    (h : ∀ name y, b.find? name = some y →
      merge (mergeOver (a.find? name) y) y = mergeOver (a.find? name) y) :
    mergeEntries (mergeEntries a b) b = mergeEntries a b := by
  have hmerged : (keys (mergeEntries a b)).Nodup := nodup_keys_mergeEntries ha
  refine ext_find? ?_ (nodup_keys_mergeEntries hmerged) fun name => ?_
  · rw [keys_mergeEntries hb, List.append_right_eq_self, List.filter_eq_nil_iff]
    intro key hkey
    by_cases hbelow : key ∈ a.keys <;> simp [keys_mergeEntries hb, hbelow, hkey]
  · rw [find?_mergeEntries hb, find?_mergeEntries hb]
    cases hy : b.find? name with
    | none => rfl
    | some y => exact congrArg some (h name y hy)

theorem mergeItems_some (below : Option Schema) (s : Schema) :
    mergeItems below (some s) = some (mergeOver below s) := by
  cases below <;> rw [mergeItems] <;> rfl

theorem mergeAdditional_schema (below : Option (Additional Schema)) (s : Schema) :
    mergeAdditional below (some (.schema s)) =
      some (.schema (mergeOver (described below).head? s)) := by
  rcases below with _ | _ | _ <;> rw [mergeAdditional] <;> rfl

theorem mergeProperties_mergeProperties_self {a b : Option (List (String × Schema))}
    (ha : (keys (a.getD [])).Nodup) (hb : (keys (b.getD [])).Nodup)
    (h : ∀ y ∈ b.getD [], ∀ below : Option Schema,
      (∀ x ∈ below, ∃ name, (name, x) ∈ a.getD []) →
        merge (mergeOver below y.2) y.2 = mergeOver below y.2) :
    mergeProperties (mergeProperties a b) b = mergeProperties a b := by
  cases b with
  | none => simp only [mergeProperties]
  | some upper =>
      simp only [mergeProperties, Option.getD_some]
      refine congrArg some (mergeEntries_mergeEntries_self ha hb fun name y hy => ?_)
      exact h _ (mem_of_find?_eq_some hy) _ fun x hx => ⟨name, mem_of_find?_eq_some hx⟩

theorem mergeItems_mergeItems_self {a b : Option Schema}
    (h : ∀ y ∈ b.toList, merge (mergeOver a y) y = mergeOver a y) :
    mergeItems (mergeItems a b) b = mergeItems a b := by
  cases b with
  | none => simp only [mergeItems]
  | some y =>
      rw [mergeItems_some, mergeItems_some]
      exact congrArg some (h y (by simp))

theorem mergeAdditional_mergeAdditional_self {a b : Option (Additional Schema)}
    (h : ∀ y ∈ described b,
      merge (mergeOver (described a).head? y) y = mergeOver (described a).head? y) :
    mergeAdditional (mergeAdditional a b) b = mergeAdditional a b := by
  rcases b with _ | _ | y
  · simp only [mergeAdditional]
  · simp only [mergeAdditional]
  · rw [mergeAdditional_schema, mergeAdditional_schema]
    exact congrArg (some ∘ Additional.schema) (h y (by simp [described]))

/-- A schema laid over another one stays when it is laid over it again. -/
theorem merge_merge_self {a b : Schema} (ha : a.WellFormed) (hb : b.WellFormed) :
    merge (merge a b) b = merge a b := by
  -- `merge_assoc` does not apply: a flag in `b` may lie over a description in `a`
  induction b using childInduction generalizing a with
  | step b ih =>
      rw [wellFormed_iff] at ha hb
      have hover : ∀ y ∈ b.children, ∀ below : Option Schema,
          (∀ x ∈ below, x ∈ a.children) → merge (mergeOver below y) y = mergeOver below y := by
        intro y hy below hbelow
        cases below with
        | some x => exact ih y hy (ha.2 x (hbelow x rfl)) (hb.2 y hy)
        | none =>
            -- alone, the schema is what it makes of the empty one
            have hempty := ih y hy wellFormed_empty (hb.2 y hy)
            rwa [empty_merge (wellFormed_iff.mp (hb.2 y hy)).1] at hempty
      have hproperties := mergeProperties_mergeProperties_self ha.1 hb.1 fun y hy below hbelow =>
        hover _ (mem_children_of_property hy) below fun x hx =>
          have ⟨_, hmem⟩ := hbelow x hx
          mem_children_of_property hmem
      have hitems := mergeItems_mergeItems_self fun y hy =>
        hover y (mem_children_of_items hy) a.items fun x hx =>
          mem_children_of_items (Option.mem_toList.mpr hx)
      have hadditional := mergeAdditional_mergeAdditional_self fun y hy =>
        hover y (mem_children_of_described hy) (described a.additional).head? fun x hx =>
          mem_children_of_described (List.mem_of_mem_head? hx)
      cases a
      cases b
      simp only [merge, ← Option.or_assoc, Option.or_self, Bool.or_assoc, Bool.or_self,
        Keywords.overlay_overlay_self]
      rw [hproperties, hitems, hadditional]

theorem merge_self {s : Schema} (h : s.WellFormed) : merge s s = s := by
  have htwice := merge_merge_self wellFormed_empty h
  rwa [empty_merge (wellFormed_iff.mp h).1] at htwice

/-! ## Lists -/

theorem wellFormed_mergeAll {list : List Schema} (h : ∀ s ∈ list, s.WellFormed) :
    (mergeAll list).WellFormed :=
  persistent_nodup.contains_mergeAll h

theorem mergeAll_append_congr {list list' : List Schema} (h : mergeAll list = mergeAll list')
    (upper : List Schema) : mergeAll (list ++ upper) = mergeAll (list' ++ upper) := by
  rw [mergeAll, mergeAll, List.foldl_append, List.foldl_append]
  exact congrArg (upper.foldl merge) h

theorem mergeAll_append {lower upper : List Schema} (hlower : ∀ s ∈ lower, s.WellFormed)
    (hupper : ∀ s ∈ upper, s.WellFormed) (hunflagged : ∀ s ∈ upper, s.Unflagged) :
    mergeAll (lower ++ upper) = merge (mergeAll lower) (mergeAll upper) := by
  -- the list grows at its end, so that what is merged before is the middle of three layers
  induction upper using List.reverseRecOn with
  | nil =>
      rw [List.append_nil]
      exact (merge_empty _).symm
  | append_singleton rest s ih =>
      have hrest : ∀ t ∈ rest, t ∈ rest ++ [s] := fun t ht => List.mem_append_left _ ht
      have hwellFormed := fun t ht => hupper t (hrest t ht)
      have hjoined : Joined (mergeAll lower) (mergeAll rest) s :=
        Or.inr (Or.inl (persistent_unflagged.contains_mergeAll fun t ht =>
          hunflagged t (hrest t ht)))
      rw [← List.append_assoc, mergeAll_concat, mergeAll_concat,
        ih hwellFormed fun t ht => hunflagged t (hrest t ht)]
      exact merge_assoc (wellFormed_mergeAll hlower) (wellFormed_mergeAll hwellFormed)
        (hupper s (by simp)) hjoined

theorem mergeAll_append_mergeAll {lower upper : List Schema} (hlower : ∀ s ∈ lower, s.WellFormed)
    (hupper : ∀ s ∈ upper, s.WellFormed) (hunflagged : ∀ s ∈ upper, s.Unflagged) :
    mergeAll (lower ++ [mergeAll upper]) = mergeAll (lower ++ upper) := by
  rw [mergeAll_concat, mergeAll_append hlower hupper hunflagged]

theorem mergeAll_append_twice {lower : List Schema} {s : Schema}
    (hlower : ∀ t ∈ lower, t.WellFormed) (hs : s.WellFormed) :
    mergeAll (lower ++ [s, s]) = mergeAll (lower ++ [s]) := by
  rw [List.append_cons lower, mergeAll_concat, mergeAll_concat]
  exact merge_merge_self (wellFormed_mergeAll hlower) hs

end Schema

end MockApi
