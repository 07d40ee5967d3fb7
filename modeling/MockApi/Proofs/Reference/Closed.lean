import MockApi.Proofs.Reference.Stack

/-! # Expanded schemas are closed

In an expanded schema nothing is left to look up or to flatten, except below circular markers, where
a document may have put anything. Merging branches keeps this at every depth: a merged node is
closed because its children are, or because one side was a marker and so is the result. Expanding a
closed schema again changes nothing, whatever the components are.
-/

namespace MockApi

namespace Schema

/-- Nothing is left to look up or to flatten, except below circular markers. -/
inductive Closed : Schema → Prop
  | marker {s : Schema} (hreference : s.reference = none) (hcircular : s.circular = true) : Closed s
  | inner {s : Schema} (hreference : s.reference = none) (hallOf : s.allOf = none)
      (hchildren : ∀ t ∈ s.children, Closed t) : Closed s

namespace Closed

theorem reference_eq_none {s : Schema} (h : s.Closed) : s.reference = none := by
  cases h <;> assumption

theorem allOf_eq_none {s : Schema} (h : s.Closed) (hcircular : s.circular = false) :
    s.allOf = none := by
  cases h with
  | marker _ hmarker => simp [hcircular] at hmarker
  | inner _ hallOf _ => exact hallOf

theorem children {s : Schema} (h : s.Closed) (hcircular : s.circular = false) :
    ∀ t ∈ s.children, t.Closed := by
  cases h with
  | marker _ hmarker => simp [hcircular] at hmarker
  | inner _ _ hchildren => exact hchildren

theorem of_sees {s t : Schema} (h : s.Closed) (hsees : s.Sees t) : t.Closed := by
  induction hsees with
  | refl => exact h
  | step hcircular hc _ ih => exact ih (h.children hcircular _ hc)

protected theorem empty : Schema.empty.Closed := .inner rfl rfl (by simp)

protected theorem merge {a b : Schema} (ha : a.Closed) (hb : b.Closed) :
    (Schema.merge a b).Closed := by
  -- a marker on either side makes a marker, so only two inner nodes need their children
  induction hb generalizing a with
  | marker hreference hcircular =>
      refine .marker ?_ ?_
      · rw [merge_reference, hreference, ha.reference_eq_none]; rfl
      · rw [merge_circular, hcircular, Bool.or_true]
  | @inner b hreference hallOf hchildren ih =>
      have hmerged : (Schema.merge a b).reference = none := by
        rw [merge_reference, hreference, ha.reference_eq_none]; rfl
      cases hcircular : a.circular with
      | true => exact .marker hmerged (by rw [merge_circular, hcircular, Bool.true_or])
      | false =>
          refine .inner hmerged ?_ ?_
          · rw [merge_allOf, hallOf, ha.allOf_eq_none hcircular]; rfl
          · exact forall_children_merge (ha.children hcircular) hchildren
              fun x hx t ht => ih t ht hx

/-- A node whose children are closed is closed once its `allOf` is settled. -/
theorem settled {s : Schema} (hreference : s.reference = none)
    (hchildren : ∀ t ∈ s.children, t.Closed) : s.settled.Closed := by
  unfold Schema.settled
  split
  next =>
    refine flattenAllOf_induction .empty (fun _ _ => .merge) ?_ ?_
    · exact (forall_mem_children_iff.mp hchildren).2.2.2.2.2
    · exact .inner hreference rfl fun t ht => hchildren t (mem_children_of_mem_ownPart ht)
  next hallOf => exact .inner hreference (by simpa using hallOf) hchildren

end Closed

end Schema

namespace Reference

open Schema

/-- An expanded node is closed when everything that stands for a reference is. -/
theorem closed_expandWith {follow : String → Resolution Schema} {s : Schema}
    (hfollow : ∀ r, s.Exposes r → (follow r).value.Closed) :
    (expandWith follow s).value.Closed := by
  induction s using childInduction with
  | step s ih =>
      obtain ⟨own, hreference, hexpand⟩ | ⟨hreference, hcircular, hexpand⟩ |
        ⟨hreference, hcircular, hexpand⟩ := expandWith_cases follow s
      · rw [hexpand]
        exact hfollow own (exposes_of_reference hreference)
      · rw [hexpand]
        exact .marker hreference hcircular
      · rw [hexpand]
        refine .settled hreference ?_
        rw [children_mapChildren]
        refine List.forall_mem_map.mpr fun t ht => ih t ht fun r hr => ?_
        exact hfollow r (exposes_of_child hreference hcircular ht hr)

theorem closed_expand (schemas : Entries Schema) (s : Schema) :
    (expand schemas s).value.Closed := by
  obtain ⟨follow, hexpand, hfollow⟩ := exists_follow_expand schemas
    (motive := fun _ _ result => result.value.Closed)
    (fun _ _ _ => .marker rfl rfl) (fun _ _ _ _ _ => .empty)
    (fun _ _ _ _ _ _ => closed_expandWith) s
  rw [hexpand]
  exact closed_expandWith hfollow

/-- Nothing in a closed schema depends on what stands for references. -/
theorem expandWith_of_closed (follow : String → Resolution Schema) {s : Schema} (h : s.Closed) :
    expandWith follow s = ⟨s, []⟩ := by
  induction s using childInduction with
  | step s ih =>
      cases hcircular : s.circular with
      | true => exact expandWith_of_circular follow h.reference_eq_none hcircular
      | false =>
          have hchildren : ∀ t ∈ s.children, expandWith follow t = ⟨t, []⟩ := fun t ht =>
            ih t ht (h.children hcircular t ht)
          have hmap : (s.mapChildren fun t => (expandWith follow t).value) = s :=
            mapChildren_eq_self fun t ht => by rw [hchildren t ht]
          have hfindings : (s.children.flatMap fun t => (expandWith follow t).findings) = [] :=
            List.flatMap_eq_nil_iff.mpr fun t ht => by rw [hchildren t ht]
          rw [expandWith_of_open follow h.reference_eq_none hcircular, hmap, hfindings, settled,
            h.allOf_eq_none hcircular]
          rfl

/-- An expanded schema holds no reference and no `allOf`, except below circular markers, and
expanding it again over any components gives it back with nothing found. -/
theorem expand_closed (schemas : Entries Schema) (s : Schema) :
    (∀ t, (expand schemas s).value.Sees t →
      t.reference = none ∧ (t.circular = false → t.allOf = none)) ∧
    ∀ others : Entries Schema,
      expand others (expand schemas s).value = ⟨(expand schemas s).value, []⟩ := by
  have hclosed := closed_expand schemas s
  constructor
  · intro t ht
    exact ⟨(hclosed.of_sees ht).reference_eq_none, (hclosed.of_sees ht).allOf_eq_none⟩
  · intro others
    exact expandWith_of_closed _ hclosed

end Reference

end MockApi
