import MockApi.Proofs.Node.Reader
import MockApi.Proofs.Schema.Merge
import MockApi.Schema.Decode

/-! # Distinct names of properties

The properties of a node are entries, so a node that is read from a document declares each name
once, however often the document writes it. Merging writes to names and keeps them distinct.
-/

namespace MockApi

namespace Schema

/-- No node in the schema declares a property twice. -/
def WellFormed (s : Schema) : Prop := ∀ t, s.Contains t → t.propertyNames.Nodup

theorem wellFormed_iff {s : Schema} :
    s.WellFormed ↔ s.propertyNames.Nodup ∧ ∀ t ∈ s.children, t.WellFormed :=
  forall_contains_iff

theorem nodup_keys_mergeEntries {lower upper : List (String × Schema)}
    (h : (Entries.keys lower).Nodup) : (Entries.keys (mergeEntries lower upper)).Nodup := by
  induction upper generalizing lower with
  | nil => simpa only [mergeEntries] using h
  | cons head rest ih =>
      rcases head with ⟨name, s⟩
      rw [mergeEntries]
      exact ih (Entries.nodup_keys_insert h)

theorem propertyNames_mapChildren (f : Schema → Schema) (s : Schema) :
    (s.mapChildren f).propertyNames = s.propertyNames := by
  unfold propertyNames mapChildren
  cases s.properties <;> simp

theorem persistent_nodup : Persistent fun s => s.propertyNames.Nodup where
  empty := List.nodup_nil
  merge a b ha _ := by
    rw [propertyNames, merge_properties]
    cases b.properties with
    | none =>
        rw [mergeProperties]
        exact ha
    | some entries =>
        rw [mergeProperties]
        exact nodup_keys_mergeEntries ha
  ownPart _ hs := hs
  mapChildren f s hs := by rwa [propertyNames_mapChildren]

theorem wellFormed_empty : empty.WellFormed :=
  forall_reaches_of_children_eq_nil children_empty List.nodup_nil

end Schema

/-! ## Reading -/

namespace Schema

open Node

variable {anchors : Anchors}

/-- A schema is well formed when the readers of its fields give distinct names and well formed
schemas. -/
theorem wellFormed_of_ofFields {depth : Nat} {entries : Node → Option (Entries Schema)}
    {schema : Node → Option Schema} {additional : Node → Option (Additional Schema)}
    {branches : Node → Option (List Schema)} {found : List (Option Node)} {s : Schema}
    (hentries : ∀ t made, entries t = some made →
      (Entries.keys made).Nodup ∧ ∀ e ∈ made, e.2.WellFormed)
    (hschema : ∀ t made, schema t = some made → made.WellFormed)
    (hadditional : ∀ t made, additional t = some made →
      ∀ u ∈ described (some made), u.WellFormed)
    (hbranches : ∀ t made, branches t = some made → ∀ u ∈ made, u.WellFormed)
    (h : ofFields? anchors depth entries schema additional branches found = some s) :
    s.WellFormed := by
  unfold ofFields? at h
  split at h
  next =>
    simp only [Option.bind_eq_bind, Option.bind_eq_some_iff, Option.pure_def] at h
    obtain ⟨_, _, _, _, _, _, properties, hproperties, _, hitems, found, hfound, _, hallOf, _,
      honeOf, _, hanyOf, h⟩ := h
    obtain rfl := Option.some.inj h
    have hlist : ∀ {t : Option Node} {list : Option (List Schema)},
        maybe? anchors branches t = some list → ∀ u ∈ list.getD [], u.WellFormed := by
      rintro t (_ | list) hread u hu
      · simp at hu
      · obtain ⟨node, hnode⟩ := exists_of_maybe hread
        exact hbranches node list hnode u hu
    have hnames : (Entries.keys (properties.getD [])).Nodup ∧
        ∀ e ∈ properties.getD [], e.2.WellFormed := by
      rcases properties with _ | made
      · simp [Entries.keys]
      · obtain ⟨node, hnode⟩ := exists_of_maybe hproperties
        exact hentries node made hnode
    refine wellFormed_iff.mpr ⟨hnames.1, forall_mem_children_iff.mpr
      ⟨hnames.2, ?_, ?_, hlist honeOf, hlist hanyOf, hlist hallOf⟩⟩
    · intro u hu
      obtain rfl := Option.mem_toList.mp hu
      obtain ⟨node, hnode⟩ := exists_of_maybe hitems
      exact hschema node u hnode
    · rcases found with _ | made
      · simp [described]
      · obtain ⟨node, hnode⟩ := exists_of_maybe hfound
        exact hadditional node made hnode
  next => cases h

theorem wellFormed_of_additional {depth : Nat} {schema : Node → Option Schema} {t : Node}
    {made : Additional Schema} (hschema : ∀ t made, schema t = some made → made.WellFormed)
    (h : additional? anchors depth schema t = some made) :
    ∀ u ∈ described (some made), u.WellFormed := by
  unfold additional? at h
  split at h
  next =>
    obtain rfl := Option.some.inj h
    simp [described]
  next settled _ _ =>
    obtain ⟨s, hs, rfl⟩ := Option.map_eq_some_iff.mp h
    simpa [described] using hschema settled s hs
  next => cases h

mutual

/-- A schema that is read from a node is well formed. -/
theorem wellFormed_of_ofNode {anchors : Anchors} (depth : Nat) {t : Node} {s : Schema}
    (h : ofNode? anchors depth t = some s) : s.WellFormed := by
  cases depth with
  | zero =>
      rw [ofNode?, Option.ite_none_right_eq_some] at h
      obtain rfl := Option.some.inj h.2
      exact wellFormed_iff.mpr ⟨List.nodup_nil, by simp [children, described]⟩
  | succ depth =>
      rw [ofNode?] at h
      obtain ⟨⟨_, found⟩, -, h⟩ := Option.bind_eq_some_iff.mp h
      exact wellFormed_of_ofFields (fun _ _ => wellFormed_of_entriesOfNode depth)
        (fun _ _ => wellFormed_of_ofNode depth)
        (fun _ _ => wellFormed_of_additional fun _ _ => wellFormed_of_ofNode depth)
        (fun _ _ => wellFormed_of_listOfNode depth) h

theorem wellFormed_of_entriesOfNode {anchors : Anchors} (depth : Nat) {t : Node}
    {made : Entries Schema} (h : entriesOfNode? anchors depth t = some made) :
    (Entries.keys made).Nodup ∧ ∀ e ∈ made, e.2.WellFormed := by
  cases depth with
  | zero =>
      rw [entriesOfNode?, Option.ite_none_right_eq_some] at h
      obtain rfl := Option.some.inj h.2
      simp [Entries.keys]
  | succ depth =>
      rw [entriesOfNode?] at h
      split at h
      next =>
        obtain ⟨pairs, hpairs, rfl⟩ := Option.map_eq_some_iff.mp h
        refine ⟨Entries.nodup_keys_ofList pairs, fun e he => ?_⟩
        obtain ⟨node, _, hnode⟩ := exists_of_mapM hpairs e (Entries.mem_of_mem_ofList he)
        obtain ⟨name, _, hnode⟩ := Option.bind_eq_some_iff.mp hnode
        obtain ⟨s, hs, hnode⟩ := Option.bind_eq_some_iff.mp hnode
        obtain rfl := Option.some.inj hnode
        exact wellFormed_of_ofNode depth hs
      next =>
        obtain rfl := Option.some.inj (Option.ite_none_right_eq_some.mp h).2
        simp [Entries.keys]

theorem wellFormed_of_listOfNode {anchors : Anchors} (depth : Nat) {t : Node}
    {made : List Schema} (h : listOfNode? anchors depth t = some made) :
    ∀ u ∈ made, u.WellFormed := by
  cases depth with
  | zero =>
      rw [listOfNode?, Option.ite_none_right_eq_some] at h
      obtain rfl := Option.some.inj h.2
      simp
  | succ depth =>
      rw [listOfNode?] at h
      split at h
      next =>
        intro u hu
        obtain ⟨node, _, hnode⟩ := exists_of_mapM h u hu
        exact wellFormed_of_ofNode depth hnode
      next =>
        obtain rfl := Option.some.inj (Option.ite_none_right_eq_some.mp h).2
        simp

end

end Schema

end MockApi
