import MockApi.Proofs.Reference.Expand
import MockApi.Proofs.Schema.Layers

/-! # Expanding before and after flattening

Where a schema has no references, expanding it only flattens, from the inside to the outside. The
outcome is the same when a node is flattened before it is expanded, as long as no schema with
`allOf` of its own is laid over another one: the upper one's branches would come below what it is
laid over.
-/

namespace MockApi

namespace Schema

theorem persistent_open : Persistent fun s => s.isMarker = false where
  empty := rfl
  merge a b ha hb := by
    simp only [isMarker, Bool.or_eq_false_iff] at ha hb ⊢
    simp [ha, hb, Option.isSome_or]
  ownPart _ hs := hs
  mapChildren _ _ hs := hs

/-- The upper schema can be laid over the lower one before or after both are flattened: nothing is
below it, or it has no branches of its own, and so on for the children that are merged. -/
inductive LaysOver : Schema → Schema → Prop
  | empty (upper : Schema) : LaysOver empty upper
  | node {lower upper : Schema} (hupper : upper.allOf = none)
      (hjoined : ∀ branches, lower.allOf = some branches →
        (∀ t ∈ branches, t.Undescribed) ∨ lower.ownPart.Unflagged ∨ upper.Undescribed)
      (hchildren : ∀ x y, Meets lower upper x y → LaysOver x y) : LaysOver lower upper

/-- Each schema of a list can be laid over what those before it have been merged to. -/
def LaidInOrder : Schema → List Schema → Prop
  | _, [] => True
  | lower, upper :: rest => LaysOver lower upper ∧ LaidInOrder (merge lower upper) rest

/-- A schema with no reference and no circular marker, and with distinct names of properties. -/
structure IsOpen (s : Schema) : Prop where
  unmarked : ∀ t, s.Contains t → t.isMarker = false
  wellFormed : s.WellFormed

namespace IsOpen

variable {s t : Schema}

theorem isMarker_eq_false (h : s.IsOpen) : s.isMarker = false := h.unmarked s (.refl s)

theorem nodup (h : s.IsOpen) : s.propertyNames.Nodup := h.wellFormed s (.refl s)

theorem of_mem_children (h : s.IsOpen) (ht : t ∈ s.children) : t.IsOpen :=
  ⟨(forall_contains_iff.mp h.unmarked).2 t ht, (wellFormed_iff.mp h.wellFormed).2 t ht⟩

theorem of_mem_branches {branches : List Schema} (h : s.IsOpen) (hs : s.allOf = some branches)
    (ht : t ∈ branches) : t.IsOpen :=
  h.of_mem_children (by simp [children, hs, ht])

theorem ownPart (h : s.IsOpen) : s.ownPart.IsOpen :=
  ⟨persistent_open.contains_ownPart h.unmarked, persistent_nodup.contains_ownPart h.wellFormed⟩

theorem merge (h : s.IsOpen) (h' : t.IsOpen) : (merge s t).IsOpen :=
  ⟨persistent_open.contains_merge h.unmarked h'.unmarked,
    persistent_nodup.contains_merge h.wellFormed h'.wellFormed⟩

theorem empty : empty.IsOpen :=
  ⟨forall_reaches_of_children_eq_nil children_empty rfl, wellFormed_empty⟩

theorem flattenAllOf (h : s.IsOpen) : s.flattenAllOf.IsOpen :=
  ⟨persistent_open.contains_flattenAllOf h.unmarked,
    persistent_nodup.contains_flattenAllOf h.wellFormed⟩

theorem not_exposes (h : s.IsOpen) {reference : String} : ¬s.Exposes reference := by
  rintro ⟨t, hwalk, ht⟩
  have hmarker := h.unmarked t (hwalk.mono fun _ _ => trivial)
  simp [isMarker, ht] at hmarker

end IsOpen

end Schema

namespace Reference

open Schema

variable (follow : String → Resolution Schema)

/-- What a schema is expanded to. -/
def expanded (s : Schema) : Schema := (expandWith follow s).value

variable {follow} {s : Schema}

theorem expanded_of_isOpen (h : s.IsOpen) :
    expanded follow s = (s.mapChildren (expanded follow)).settled := by
  have hmarker := h.isMarker_eq_false
  simp only [isMarker, Bool.or_eq_false_iff, Option.isSome_eq_false_iff,
    Option.isNone_iff_eq_none] at hmarker
  rw [expanded, expandWith_of_open follow hmarker.1 hmarker.2]
  rfl

/-- What holds everywhere in a plain schema and is kept by building schemas holds everywhere in what
it is expanded to. -/
theorem contains_expanded {holds : Schema → Prop} (hpersistent : Persistent holds) (h : s.IsOpen)
    (hs : ∀ t, s.Contains t → holds t) : ∀ t, (expanded follow s).Contains t → holds t :=
  contains_expandWith follow hpersistent hs fun _ hr => (h.not_exposes hr).elim

theorem contains_mergeAll_expanded {holds : Schema → Prop} (hpersistent : Persistent holds)
    {branches : List Schema} (hopen : ∀ t ∈ branches, t.IsOpen)
    (h : ∀ t ∈ branches, ∀ u, t.Contains u → holds u) :
    ∀ u, (mergeAll (branches.map (expanded follow))).Contains u → holds u :=
  hpersistent.contains_mergeAll (List.forall_mem_map.mpr fun t ht =>
    contains_expanded hpersistent (hopen t ht) (h t ht))

theorem wellFormed_expanded (h : s.IsOpen) : (expanded follow s).WellFormed :=
  contains_expanded persistent_nodup h h.wellFormed

theorem expanded_of_allOf_none (h : s.IsOpen) (hallOf : s.allOf = none) :
    expanded follow s = s.mapChildren (expanded follow) := by
  have hnone : (s.mapChildren (expanded follow)).allOf = none := by
    simp [mapChildren, hallOf]
  rw [expanded_of_isOpen h, settled_of_allOf_none hnone]

theorem expanded_empty : expanded follow empty = empty := expanded_of_allOf_none .empty rfl

/-- The branches are expanded, and then they and the expanded rest of the node are merged. -/
theorem expanded_of_allOf {branches : List Schema} (h : s.IsOpen)
    (hallOf : s.allOf = some branches) :
    expanded follow s =
      merge (mergeAll (branches.map (expanded follow))) (expanded follow s.ownPart) := by
  have hown : (s.mapChildren (expanded follow)).ownPart = expanded follow s.ownPart := by
    rw [expanded_of_allOf_none h.ownPart rfl]
    rfl
  have hbranches : (s.mapChildren (expanded follow)).allOf =
      some (branches.map (expanded follow)) := by
    simp [mapChildren, hallOf]
  rw [expanded_of_isOpen h, settled_of_allOf hbranches, hown]

/-! ## Laying one schema over another -/

/-- Merging commutes with expanding the children where it does so below. -/
theorem mapChildren_expanded_merge {lower upper : Schema} (hlower : lower.IsOpen)
    (hupper : upper.IsOpen)
    (h : ∀ x y, Meets lower upper x y → x.IsOpen → y.IsOpen →
      expanded follow (merge x y) = merge (expanded follow x) (expanded follow y)) :
    (merge lower upper).mapChildren (expanded follow) =
      merge (lower.mapChildren (expanded follow)) (upper.mapChildren (expanded follow)) :=
  mapChildren_merge hlower.nodup hupper.nodup fun x y hmeets =>
    h x y hmeets (hlower.of_mem_children hmeets.left_mem)
      (hupper.of_mem_children hmeets.right_mem)

/-- The branches, the rest of the node and what is laid over it are joined once they are expanded if
they are so before. -/
theorem joined_expanded {branches : List Schema} {own upper : Schema}
    (hbranches : ∀ t ∈ branches, t.IsOpen) (hown : own.IsOpen) (hupper : upper.IsOpen)
    (h : (∀ t ∈ branches, t.Undescribed) ∨ own.Unflagged ∨ upper.Undescribed) :
    Joined (mergeAll (branches.map (expanded follow))) (expanded follow own)
      (expanded follow upper) := by
  obtain h | h | h := h
  · exact Or.inl (contains_mergeAll_expanded persistent_undescribed hbranches h)
  · exact Or.inr (Or.inl (contains_expanded persistent_unflagged hown h))
  · exact Or.inr (Or.inr (contains_expanded persistent_undescribed hupper h))

/-- Laying a schema over another one and then expanding is expanding both first. -/
theorem expanded_merge {lower upper : Schema} (hlaid : LaysOver lower upper) (hlower : lower.IsOpen)
    (hupper : upper.IsOpen) :
    expanded follow (merge lower upper) =
      merge (expanded follow lower) (expanded follow upper) := by
  induction hlaid with
  | empty upper =>
      rw [expanded_empty, empty_merge hupper.nodup,
        empty_merge (wellFormed_iff.mp (wellFormed_expanded hupper)).1]
  | @node lower upper hnone hjoined _ ih =>
      have hmerged := hlower.merge hupper
      have hexpanded : expanded follow upper = upper.mapChildren (expanded follow) :=
        expanded_of_allOf_none hupper hnone
      cases hallOf : lower.allOf with
      | none =>
          rw [expanded_of_allOf_none hmerged (by simp [hnone, hallOf]), hexpanded,
            expanded_of_allOf_none hlower hallOf]
          exact mapChildren_expanded_merge hlower hupper ih
      | some branches =>
          have hbranches : ∀ t ∈ branches, t.IsOpen := fun t => hlower.of_mem_branches hallOf
          have hbelow : (merge lower upper).allOf = some branches := by
            simp [hnone, hallOf]
          -- the branches stay below the rest of the node and what is laid over it
          have hown : expanded follow (merge lower upper).ownPart =
              merge (expanded follow lower.ownPart) (expanded follow upper) := by
            rw [expanded_of_allOf_none hmerged.ownPart rfl, ownPart_merge hnone,
              expanded_of_allOf_none hlower.ownPart rfl, hexpanded]
            exact mapChildren_expanded_merge hlower.ownPart hupper fun x y hmeets =>
              ih x y hmeets.of_ownPart
          rw [expanded_of_allOf hmerged hbelow, hown, expanded_of_allOf hlower hallOf]
          refine (merge_assoc ?_ (wellFormed_expanded hlower.ownPart) (wellFormed_expanded hupper)
            (joined_expanded hbranches hlower.ownPart hupper (hjoined branches hallOf))).symm
          exact contains_mergeAll_expanded persistent_nodup hbranches fun t ht =>
            (hbranches t ht).wellFormed

/-- Merging a list and then expanding is expanding its schemas first, when each of them can be laid
over those before it. -/
theorem expanded_foldl_merge {start : Schema} {list : List Schema} (hlaid : LaidInOrder start list)
    (hstart : start.IsOpen) (hlist : ∀ t ∈ list, t.IsOpen) :
    expanded follow (list.foldl merge start) =
      (list.map (expanded follow)).foldl merge (expanded follow start) := by
  induction list generalizing start with
  | nil => rfl
  | cons t rest ih =>
      obtain ⟨hfirst, hrest⟩ := hlaid
      have ht := hlist t List.mem_cons_self
      rw [List.foldl_cons, ih hrest (hstart.merge ht) fun u hu =>
        hlist u (List.mem_cons_of_mem _ hu), expanded_merge hfirst hstart ht]
      rfl

/-- A node may be flattened before it is expanded, when its branches and the node itself can be laid
over one another. -/
theorem expanded_flattenAllOf {branches : List Schema} (h : s.IsOpen)
    (hallOf : s.allOf = some branches) (hlaid : LaidInOrder empty (branches ++ [s.ownPart])) :
    expanded follow s.flattenAllOf = expanded follow s := by
  have hlist : ∀ t ∈ branches ++ [s.ownPart], t.IsOpen := by
    intro t ht
    rcases List.mem_append.mp ht with ht | ht
    · exact h.of_mem_branches hallOf ht
    · exact List.mem_singleton.mp ht ▸ h.ownPart
  rw [flattenAllOf, hallOf, Option.getD_some, mergeAll, expanded_foldl_merge hlaid .empty hlist,
    expanded_empty, expanded_of_allOf h hallOf, List.map_append, ← mergeAll_concat]
  rfl

end Reference

end MockApi
