import MockApi.Proofs.Reference.Termination
import MockApi.Proofs.Schema.MergeLaws

/-! # Nested and repeated branches

A branch that only lists branches of its own may be replaced by these, and a branch may be written
twice in a row: the node expands to the same schema. The first needs that no flag for undeclared
properties comes out of the inner branches, since merging is associative only without them. A node
that is marked as circular and has no reference is left as it is written, branches included.
-/

namespace MockApi

open Schema

/-- The node with the given branches of `allOf` in place of its own. -/
def Schema.withAllOf (s : Schema) (branches : List Schema) : Schema :=
  { s with allOf := some branches }

namespace Reference

section

variable {schemas : Entries Schema}

theorem wellFormed_expand (hschemas : ∀ e ∈ schemas, e.2.WellFormed) {s : Schema}
    (hs : s.WellFormed) : (expand schemas s).value.WellFormed :=
  contains_expand persistent_nodup hs hschemas fun _ _ => List.nodup_nil

/-- The branches are expanded and merged, and the expanded rest of the node is laid over them. -/
theorem expand_withAllOf {own : Schema} (hreference : own.reference = none)
    (hcircular : own.circular = false) (branches : List Schema) :
    expand schemas (own.withAllOf branches) =
      ⟨merge (mergeAll (branches.map fun t => (expand schemas t).value))
          (own.ownPart.mapChildren fun t => (expand schemas t).value),
        own.ownPart.children.flatMap (fun t => (expand schemas t).findings) ++
          branches.flatMap fun t => (expand schemas t).findings⟩ := by
  have hchildren : (own.withAllOf branches).children = own.ownPart.children ++ branches := by
    simp [children, withAllOf, ownPart]
  have hsettled : ((own.withAllOf branches).mapChildren fun t => (expand schemas t).value).settled =
      merge (mergeAll (branches.map fun t => (expand schemas t).value))
        (own.ownPart.mapChildren fun t => (expand schemas t).value) :=
    settled_of_allOf rfl
  rw [@expand_of_open schemas (own.withAllOf branches) hreference hcircular, hsettled, hchildren,
    List.flatMap_append]

theorem expand_empty_withAllOf (branches : List Schema) :
    expand schemas (empty.withAllOf branches) =
      ⟨mergeAll (branches.map fun t => (expand schemas t).value),
        branches.flatMap fun t => (expand schemas t).findings⟩ := by
  -- the node has nothing of its own to be laid over the branches
  have hunit := merge_empty (mergeAll (branches.map fun t => (expand schemas t).value))
  rw [@expand_withAllOf schemas empty rfl rfl]
  exact congrArg (Resolution.mk · _) hunit

variable {own : Schema} {branches branches' : List Schema}

/-- What a node expands to depends on its branches by what they are merged to, and what is found by
what is found in them. -/
theorem expand_withAllOf_congr (hown : own.reference ≠ none ∨ own.circular = false)
    (hmerged : mergeAll (branches.map fun t => (expand schemas t).value) =
      mergeAll (branches'.map fun t => (expand schemas t).value)) :
    (expand schemas (own.withAllOf branches)).value =
        (expand schemas (own.withAllOf branches')).value ∧
      ((branches.flatMap fun t => (expand schemas t).findings) =
          branches'.flatMap (fun t => (expand schemas t).findings) →
        expand schemas (own.withAllOf branches) = expand schemas (own.withAllOf branches')) := by
  cases hreference : own.reference with
  | some reference =>
      have hsame : expand schemas (own.withAllOf branches) =
          expand schemas (own.withAllOf branches') :=
        expand_eq_of_reference hreference hreference
      exact ⟨congrArg _ hsame, fun _ => hsame⟩
  | none =>
      have hcircular : own.circular = false := hown.resolve_left (not_not_intro hreference)
      rw [expand_withAllOf hreference hcircular, expand_withAllOf hreference hcircular, hmerged]
      exact ⟨rfl, fun hfindings => by rw [hfindings]⟩

end

/-- Nesting and repeating branches changes nothing. Inner branches from which no flag for undeclared
properties comes may be written in place of the branch that lists them, with the same outcome, and a
branch may be repeated right after itself, with the same schema. Merging has the empty schema as its
unit, is idempotent, and is associative where the middle schema has no such flag. -/
theorem expand_withAllOf_nested_repeated {schemas : Entries Schema}
    (hschemas : ∀ e ∈ schemas, e.2.WellFormed) {own : Schema}
    (hown : own.reference ≠ none ∨ own.circular = false) :
    (∀ xs ys zs : List Schema, (∀ x ∈ xs, x.WellFormed) → (∀ y ∈ ys, y.WellFormed) →
      (∀ y ∈ ys, (expand schemas y).value.Unflagged) →
      expand schemas (own.withAllOf (xs ++ [empty.withAllOf ys] ++ zs)) =
        expand schemas (own.withAllOf (xs ++ ys ++ zs))) ∧
    (∀ (xs : List Schema) (x : Schema) (zs : List Schema), (∀ t ∈ xs, t.WellFormed) →
      x.WellFormed →
      (expand schemas (own.withAllOf (xs ++ [x, x] ++ zs))).value =
        (expand schemas (own.withAllOf (xs ++ [x] ++ zs))).value) ∧
    (∀ s : Schema, s.WellFormed → merge empty s = s ∧ merge s empty = s ∧ merge s s = s) ∧
    ∀ a b c : Schema, a.WellFormed → b.WellFormed → c.WellFormed → b.Unflagged →
      merge (merge a b) c = merge a (merge b c) := by
  have hwellFormed : ∀ list : List Schema, (∀ t ∈ list, t.WellFormed) →
      ∀ t ∈ list.map fun t => (expand schemas t).value, t.WellFormed := fun list hlist =>
    List.forall_mem_map.mpr fun t ht => wellFormed_expand hschemas (hlist t ht)
  refine ⟨fun xs ys zs hxs hys hunflagged => ?_, fun xs x zs hxs hx => ?_,
    fun s hs => ⟨empty_merge (wellFormed_iff.mp hs).1, merge_empty s, merge_self hs⟩,
    fun a b c ha hb hc hunflagged => merge_assoc ha hb hc (Or.inr (Or.inl hunflagged))⟩
  · refine (expand_withAllOf_congr hown ?_).2 ?_
    · simp only [List.map_append, List.map_cons, List.map_nil, expand_empty_withAllOf]
      refine mergeAll_append_congr (mergeAll_append_mergeAll (hwellFormed xs hxs)
        (hwellFormed ys hys) ?_) _
      exact List.forall_mem_map.mpr hunflagged
    · simp only [List.flatMap_append, List.flatMap_singleton, expand_empty_withAllOf]
  · refine (expand_withAllOf_congr hown ?_).1
    simp only [List.map_append, List.map_cons, List.map_nil]
    exact mergeAll_append_congr (mergeAll_append_twice (hwellFormed xs hxs)
      (wellFormed_expand hschemas hx)) _

/-- A schema with a name. -/
def named : Schema :=
  { properties := some [("name", { keywords := { type := some .string } })] }

theorem forall_contains_named {holds : Schema → Prop} (hnamed : holds named)
    (hname : holds { keywords := { type := some .string } }) :
    ∀ t, named.Contains t → holds t :=
  forall_contains_iff.mpr ⟨hnamed, List.forall_mem_singleton.mpr
    (forall_reaches_of_children_eq_nil rfl hname)⟩

theorem wellFormed_named : named.WellFormed := forall_contains_named (by decide) List.nodup_nil

theorem unflagged_named : named.Unflagged :=
  forall_contains_named (fun _ => nofun) fun _ => nofun

/-- A nullable node over a reference to the schema with a name, which is nested once and repeated
once. -/
theorem expand_withAllOf_named :
    let schemas := [("Named", named)]
    let own : Schema := { keywords := { nullable := true } }
    let branch : Schema := { reference := some "#/components/schemas/Named" }
    expand schemas (own.withAllOf ([branch] ++ [empty.withAllOf [branch]] ++ [])) =
        expand schemas (own.withAllOf ([branch] ++ [branch] ++ [])) ∧
      (expand schemas (own.withAllOf ([] ++ [branch, branch] ++ []))).value =
        (expand schemas (own.withAllOf ([] ++ [branch] ++ []))).value ∧
      merge named named = named ∧
      merge (merge named named) named = merge named (merge named named) := by
  intro schemas own branch
  have hschemas : ∀ e ∈ schemas, e.2.WellFormed := List.forall_mem_singleton.mpr wellFormed_named
  have hbranch : branch.WellFormed := forall_reaches_of_children_eq_nil rfl List.nodup_nil
  have hbranches : ∀ t ∈ [branch], t.WellFormed := List.forall_mem_singleton.mpr hbranch
  have hvalue : (expand schemas branch).value = named := rfl
  obtain ⟨hnested, hrepeated, hunit, hassoc⟩ :=
    @expand_withAllOf_nested_repeated schemas hschemas own (Or.inr rfl)
  refine ⟨hnested _ _ _ hbranches hbranches ?_, hrepeated _ _ _ (by simp) hbranch,
    (hunit named wellFormed_named).2.2,
    hassoc _ _ _ wellFormed_named wellFormed_named wellFormed_named unflagged_named⟩
  exact List.forall_mem_singleton.mpr (hvalue ▸ unflagged_named)

/-- Beside a circular marker, a nested branch stays nested. -/
theorem expand_withAllOf_cut_ne :
    (∀ y ∈ [named], (expand [] y).value.Unflagged) ∧
    (expand [] (cut.withAllOf ([] ++ [empty.withAllOf [named]] ++ []))).value ≠
      (expand [] (cut.withAllOf ([] ++ [named] ++ []))).value := by
  have hvalue : (expand [] named).value = named := rfl
  refine ⟨List.forall_mem_singleton.mpr (hvalue ▸ unflagged_named), fun h => ?_⟩
  have hproperties := congrArg (fun s => s.allOf.map (List.map fun t => t.properties.isSome)) h
  revert hproperties
  decide +kernel

end Reference

end MockApi
