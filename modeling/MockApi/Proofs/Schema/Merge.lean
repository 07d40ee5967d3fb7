import MockApi.Proofs.Entries
import MockApi.Proofs.Schema.Children
import MockApi.Schema.Merge

/-! # What merging preserves

The children of a merged node are children of either side, or merged from a child of each. A
property of nodes that merging two nodes keeps therefore holds everywhere in a merged schema as soon
as it holds everywhere in both.
-/

namespace MockApi.Schema

@[simp] theorem merge_reference (a b : Schema) :
    (merge a b).reference = b.reference.or a.reference := by
  cases b
  rw [merge]

@[simp] theorem merge_circular (a b : Schema) :
    (merge a b).circular = (a.circular || b.circular) := by
  cases b
  rw [merge]

@[simp] theorem merge_keywords (a b : Schema) :
    (merge a b).keywords = a.keywords.overlay b.keywords := by
  cases b
  rw [merge]

@[simp] theorem merge_properties (a b : Schema) :
    (merge a b).properties = mergeProperties a.properties b.properties := by
  cases b
  rw [merge]

@[simp] theorem merge_items (a b : Schema) :
    (merge a b).items = mergeItems a.items b.items := by
  cases b
  rw [merge]

@[simp] theorem merge_additional (a b : Schema) :
    (merge a b).additional = mergeAdditional a.additional b.additional := by
  cases b
  rw [merge]

@[simp] theorem merge_allOf (a b : Schema) : (merge a b).allOf = b.allOf.or a.allOf := by
  cases b
  rw [merge]

@[simp] theorem merge_oneOf (a b : Schema) : (merge a b).oneOf = b.oneOf.or a.oneOf := by
  cases b
  rw [merge]

@[simp] theorem merge_anyOf (a b : Schema) : (merge a b).anyOf = b.anyOf.or a.anyOf := by
  cases b
  rw [merge]

/-! ## Children of a merged node -/

section Children

variable {holds : Schema → Prop}

theorem forall_mem_mergeEntries {lower upper : List (String × Schema)}
    (hlower : ∀ e ∈ lower, holds e.2) (hupper : ∀ e ∈ upper, holds e.2)
    (hmerge : ∀ x, holds x → ∀ e ∈ upper, holds (merge x e.2)) :
    ∀ e ∈ mergeEntries lower upper, holds e.2 := by
  induction upper generalizing lower with
  | nil => simpa only [mergeEntries] using hlower
  | cons head rest ih =>
      rcases head with ⟨name, s⟩
      rw [mergeEntries]
      refine ih ?_ (fun e he => hupper e (List.mem_cons_of_mem _ he))
        (fun x hx e he => hmerge x hx e (List.mem_cons_of_mem _ he))
      intro e he
      rcases Entries.mem_insert he with he | rfl
      · exact hlower e he
      · dsimp only
        split
        next existing hfound =>
          have hmem : (name, existing) ∈ lower := Entries.mem_of_find?_eq_some hfound
          exact hmerge existing (hlower _ hmem) _ List.mem_cons_self
        next => exact hupper _ List.mem_cons_self

theorem forall_mem_mergeProperties {lower upper : Option (List (String × Schema))}
    (hlower : ∀ e ∈ lower.getD [], holds e.2) (hupper : ∀ e ∈ upper.getD [], holds e.2)
    (hmerge : ∀ x, holds x → ∀ e ∈ upper.getD [], holds (merge x e.2)) :
    ∀ e ∈ (mergeProperties lower upper).getD [], holds e.2 := by
  cases upper with
  | none => simpa only [mergeProperties] using hlower
  | some entries =>
      rw [mergeProperties]
      exact forall_mem_mergeEntries hlower hupper hmerge

theorem forall_mem_mergeItems {lower upper : Option Schema}
    (hlower : ∀ t ∈ lower.toList, holds t) (hupper : ∀ t ∈ upper.toList, holds t)
    (hmerge : ∀ x, holds x → ∀ t ∈ upper.toList, holds (merge x t)) :
    ∀ t ∈ (mergeItems lower upper).toList, holds t := by
  cases upper with
  | none => simpa only [mergeItems] using hlower
  | some u =>
      cases lower with
      | none => simpa only [mergeItems] using hupper
      | some l =>
          have hl : holds l := hlower l (by simp)
          simpa [mergeItems] using hmerge l hl u (by simp)

theorem forall_mem_mergeAdditional {lower upper : Option (Additional Schema)}
    (hlower : ∀ t ∈ described lower, holds t) (hupper : ∀ t ∈ described upper, holds t)
    (hmerge : ∀ x, holds x → ∀ t ∈ described upper, holds (merge x t)) :
    ∀ t ∈ described (mergeAdditional lower upper), holds t := by
  match lower, upper with
  | _, none => simpa only [mergeAdditional] using hlower
  | _, some (.flag _) => simp [mergeAdditional, described]
  | none, some (.schema u) => simpa only [mergeAdditional] using hupper
  | some (.flag _), some (.schema u) => simpa only [mergeAdditional] using hupper
  | some (.schema l), some (.schema u) =>
      have hl : holds l := hlower l (by simp [described])
      simpa [mergeAdditional, described] using hmerge l hl u (by simp [described])

theorem forall_mem_or_branches {lower upper : Option (List Schema)}
    (hlower : ∀ t ∈ lower.getD [], holds t) (hupper : ∀ t ∈ upper.getD [], holds t) :
    ∀ t ∈ (upper.or lower).getD [], holds t := by
  cases upper with
  | none => simpa only [Option.none_or] using hlower
  | some branches => simpa only [Option.some_or] using hupper

/-- What holds of the children of both sides, and of everything merged from a node that it holds of
and a child of the upper side, holds of the children of a merged node. -/
theorem forall_children_merge {a b : Schema} (ha : ∀ t ∈ a.children, holds t)
    (hb : ∀ t ∈ b.children, holds t) (hmerge : ∀ x, holds x → ∀ t ∈ b.children, holds (merge x t)) :
    ∀ t ∈ (merge a b).children, holds t := by
  obtain ⟨haProperties, haItems, haAdditional, haOneOf, haAnyOf, haAllOf⟩ :=
    forall_mem_children_iff.mp ha
  obtain ⟨hbProperties, hbItems, hbAdditional, hbOneOf, hbAnyOf, hbAllOf⟩ :=
    forall_mem_children_iff.mp hb
  have hmerge' := fun x hx => forall_mem_children_iff.mp (hmerge x hx)
  rw [forall_mem_children_iff, merge_properties, merge_items, merge_additional, merge_oneOf,
    merge_anyOf, merge_allOf]
  exact ⟨forall_mem_mergeProperties haProperties hbProperties fun x hx => (hmerge' x hx).1,
    forall_mem_mergeItems haItems hbItems fun x hx => (hmerge' x hx).2.1,
    forall_mem_mergeAdditional haAdditional hbAdditional fun x hx => (hmerge' x hx).2.2.1,
    forall_mem_or_branches haOneOf hbOneOf, forall_mem_or_branches haAnyOf hbAnyOf,
    forall_mem_or_branches haAllOf hbAllOf⟩

end Children

/-! ## Properties of every node -/

@[simp] theorem children_empty : empty.children = [] := rfl

theorem mem_children_of_mem_ownPart {s t : Schema} (h : t ∈ s.ownPart.children) :
    t ∈ s.children := by
  simp only [children, ownPart, Option.getD_none, List.append_nil] at h
  exact List.mem_append_left _ h

theorem mergeAll_concat (list : List Schema) (s : Schema) :
    mergeAll (list ++ [s]) = merge (mergeAll list) s := by
  rw [mergeAll, List.foldl_append]
  rfl

/-- What holds of the empty schema and is kept by merging holds of what a list is merged to. -/
theorem mergeAll_induction {motive : Schema → Prop} (hempty : motive empty)
    (hmerge : ∀ a b, motive a → motive b → motive (merge a b)) {list : List Schema}
    (hlist : ∀ s ∈ list, motive s) : motive (mergeAll list) := by
  suffices hfold : ∀ start, motive start → motive (list.foldl merge start) from hfold empty hempty
  induction list with
  | nil => exact fun _ hstart => hstart
  | cons s rest ih =>
      intro start hstart
      exact ih (fun t ht => hlist t (List.mem_cons_of_mem _ ht)) _
        (hmerge start s hstart (hlist s List.mem_cons_self))

theorem flattenAllOf_induction {motive : Schema → Prop} (hempty : motive empty)
    (hmerge : ∀ a b, motive a → motive b → motive (merge a b)) {s : Schema}
    (hbranches : ∀ t ∈ s.allOf.getD [], motive t) (hown : motive s.ownPart) :
    motive s.flattenAllOf := by
  refine mergeAll_induction hempty hmerge ?_
  intro t ht
  rcases List.mem_append.mp ht with ht | ht
  · exact hbranches t ht
  · exact List.mem_singleton.mp ht ▸ hown

/-- A property of nodes that building schemas from others keeps. -/
structure Persistent (holds : Schema → Prop) : Prop where
  empty : holds empty
  merge : ∀ a b, holds a → holds b → holds (merge a b)
  ownPart : ∀ s, holds s → holds s.ownPart
  mapChildren : ∀ f s, holds s → holds (s.mapChildren f)

variable {holds : Schema → Prop}

theorem Persistent.contains_merge (h : Persistent holds) {a b : Schema}
    (ha : ∀ t, a.Contains t → holds t) (hb : ∀ t, b.Contains t → holds t) :
    ∀ t, (Schema.merge a b).Contains t → holds t := by
  -- merging descends along the upper side, while the lower side may be any node
  induction b using childInduction generalizing a with
  | step b ih =>
      rw [forall_contains_iff] at ha hb ⊢
      exact ⟨h.merge a b ha.1 hb.1, forall_children_merge ha.2 hb.2 fun x hx t ht =>
        ih t ht hx (hb.2 t ht)⟩

theorem Persistent.contains_ownPart (h : Persistent holds) {s : Schema}
    (hs : ∀ t, s.Contains t → holds t) : ∀ t, s.ownPart.Contains t → holds t := by
  rw [forall_contains_iff] at hs ⊢
  exact ⟨h.ownPart s hs.1, fun c hc => hs.2 c (mem_children_of_mem_ownPart hc)⟩

/-- A persistent property that holds everywhere in some schemas holds everywhere in what they are
merged to. -/
theorem Persistent.contains_mergeAll (h : Persistent holds) {list : List Schema}
    (hlist : ∀ s ∈ list, ∀ t, s.Contains t → holds t) :
    ∀ t, (mergeAll list).Contains t → holds t :=
  mergeAll_induction (motive := fun a => ∀ t, a.Contains t → holds t)
    (forall_reaches_of_children_eq_nil children_empty h.empty) (fun _ _ => h.contains_merge) hlist

/-- A persistent property that holds everywhere in a node holds everywhere in the flattened node. -/
theorem Persistent.contains_flattenAllOf (h : Persistent holds) {s : Schema}
    (hs : ∀ t, s.Contains t → holds t) : ∀ t, s.flattenAllOf.Contains t → holds t := by
  refine flattenAllOf_induction (motive := fun a => ∀ t, a.Contains t → holds t) ?_
    (fun a b => h.contains_merge) ?_ (h.contains_ownPart hs)
  · exact forall_reaches_of_children_eq_nil children_empty h.empty
  · exact (forall_mem_children_iff.mp (forall_contains_iff.mp hs).2).2.2.2.2.2

theorem Persistent.contains_mapChildren (h : Persistent holds) {f : Schema → Schema} {s : Schema}
    (hs : holds s) (hf : ∀ t ∈ s.children, ∀ u, (f t).Contains u → holds u) :
    ∀ u, (s.mapChildren f).Contains u → holds u := by
  refine forall_contains_iff.mpr ⟨h.mapChildren f s hs, ?_⟩
  rw [children_mapChildren]
  exact List.forall_mem_map.mpr hf

end MockApi.Schema
