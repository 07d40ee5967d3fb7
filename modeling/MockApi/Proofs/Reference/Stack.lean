import MockApi.Proofs.Reference.Expand

/-! # Expansion under a stack of references

A reference on the stack is cut, one that leads nowhere leaves the empty schema, and any other is
replaced by the expansion of its target, whose references are followed with one more reference on
the stack. The stack never holds a reference twice and holds only references of the document, so the
count that expansion starts with is never used up, and these three rules are all there is.
-/

namespace MockApi.Reference

open Schema

/-! ## The references of a document -/

theorem targetsOfEntries_eq (entries : List (String × Schema)) :
    targetsOfEntries entries = entries.flatMap fun e => targets e.2 := by
  induction entries with
  | nil => rw [targetsOfEntries]; rfl
  | cons e rest ih =>
      rcases e with ⟨name, s⟩
      rw [targetsOfEntries, ih]
      rfl

theorem targetsOfList_eq (branches : List Schema) :
    targetsOfList branches = branches.flatMap targets := by
  induction branches with
  | nil => rw [targetsOfList]; rfl
  | cons s rest ih =>
      rw [targetsOfList, ih]
      rfl

theorem targetsOfBranches_eq (list : Option (List Schema)) :
    targetsOfBranches list = (list.getD []).flatMap targets := by
  cases list with
  | none => rw [targetsOfBranches]; rfl
  | some branches => rw [targetsOfBranches, targetsOfList_eq]; rfl

theorem targetsOfProperties_eq (properties : Option (List (String × Schema))) :
    targetsOfProperties properties = (properties.getD []).flatMap fun e => targets e.2 := by
  cases properties with
  | none => rw [targetsOfProperties]; rfl
  | some entries => rw [targetsOfProperties, targetsOfEntries_eq]; rfl

theorem targetsOfItems_eq (items : Option Schema) :
    targetsOfItems items = items.toList.flatMap targets := by
  cases items with
  | none => rw [targetsOfItems]; rfl
  | some s => rw [targetsOfItems]; simp

theorem targetsOfAdditional_eq (additional : Option (Additional Schema)) :
    targetsOfAdditional additional = (described additional).flatMap targets := by
  match additional with
  | none => rw [targetsOfAdditional]; rfl
  | some (.flag _) => rw [targetsOfAdditional]; rfl
  | some (.schema s) => rw [targetsOfAdditional]; simp [described]

theorem mem_targets_iff {s : Schema} {reference : String} :
    reference ∈ targets s ↔
      s.reference = some reference ∨ ∃ t ∈ s.children, reference ∈ targets t := by
  rcases s with ⟨own, circular, keywords, properties, items, additional, allOf, oneOf, anyOf⟩
  rw [targets, targetsOfProperties_eq, targetsOfItems_eq, targetsOfAdditional_eq,
    targetsOfBranches_eq, targetsOfBranches_eq, targetsOfBranches_eq]
  simp only [children, List.mem_append, List.mem_flatMap, Option.mem_toList, List.mem_map]
  grind

theorem mem_targets_of_exposes {s : Schema} {reference : String} (h : s.Exposes reference) :
    reference ∈ targets s := by
  obtain ⟨t, hwalk, ht⟩ := h
  induction hwalk with
  | refl t => exact mem_targets_iff.mpr (Or.inl ht)
  | step _ hc _ ih => exact mem_targets_iff.mpr (Or.inr ⟨_, hc, ih ht⟩)

theorem mem_of_find_eq_ok {α : Type} {part : Section} {items : Entries α} {reference : String}
    {item : α} (h : find part items reference = .ok item) : ∃ e ∈ items, e.2 = item := by
  unfold find at h
  split at h
  next => cases h
  next name _ =>
    split at h
    next found hfound =>
      obtain rfl := Except.ok.inj h
      exact ⟨_, Entries.mem_of_find?_eq_some hfound, rfl⟩
    next => cases h

theorem find_mapValues {α β : Type} {part : Section} {items : Entries α} {reference : String}
    {item : α} (f : α → β) (h : find part items reference = .ok item) :
    find part (items.mapValues f) reference = .ok (f item) := by
  unfold find at h ⊢
  split at h
  next => cases h
  next name _ =>
    split at h
    next found hfound =>
      obtain rfl := Except.ok.inj h
      simp [Entries.find?_mapValues, hfound]
    next => cases h

theorem find_error_ne_circular {α : Type} {part : Section} {items : Entries α}
    {reference other : String} {problem : Problem}
    (h : find part items reference = .error problem) : problem ≠ .circular other := by
  unfold find at h
  split at h
  next =>
    obtain rfl := Except.error.inj h
    simp
  next name _ =>
    split at h
    next => cases h
    next =>
      obtain rfl := Except.error.inj h
      simp

/-! ## Induction over the expansion -/

/-- What holds of a cut and of a reference that leads nowhere, and of the expansion of a target as
soon as it holds of everything that its references are replaced by, holds of what any reference is
replaced by. The list `document` holds every reference that can be met. -/
theorem expandReference_induction {schemas : Entries Schema}
    {motive : List String → String → Resolution Schema → Prop} (document : List String)
    (htargets : ∀ r target, find .schemas schemas r = .ok target →
      ∀ r', target.Exposes r' → r' ∈ document)
    (cut : ∀ stack r, r ∈ stack →
      motive stack r (.broken Schema.cut (.circular r) .warning))
    (lost : ∀ stack r problem, r ∉ stack → find .schemas schemas r = .error problem →
      motive stack r (.broken Schema.empty problem .error))
    (jump : ∀ stack r target follow, r ∉ stack → find .schemas schemas r = .ok target →
      (∀ r', target.Exposes r' → motive (r :: stack) r' (follow r')) →
      motive stack r (expandWith follow target))
    (fuel : Nat) (stack : List String) (r : String) (hnodup : stack.Nodup)
    (hstack : stack ⊆ document) (hr : r ∈ document)
    (hfuel : document.length < fuel + stack.length) :
    motive stack r (expandReference schemas fuel stack r) := by
  induction fuel generalizing stack r with
  | zero =>
      -- a stack without repetition is no longer than the list that it is taken from
      have hlength := hnodup.length_le_of_subset hstack
      omega
  | succ fuel ih =>
      rw [expandReference]
      split
      next hmem => exact cut stack r hmem
      next hmem =>
        split
        next problem hfind => exact lost stack r problem hmem hfind
        next target hfind =>
          refine jump stack r target _ hmem hfind fun r' hr' => ?_
          refine ih (r :: stack) r' (List.nodup_cons.mpr ⟨hmem, hnodup⟩)
            (List.cons_subset.mpr ⟨hr, hstack⟩) (htargets r target hfind r' hr') ?_
          rw [List.length_cons]
          omega

/-- The expansion of a schema replaces each reference that it meets by something of which the three
rules make the motive hold. -/
theorem exists_follow_expand (schemas : Entries Schema)
    {motive : List String → String → Resolution Schema → Prop}
    (cut : ∀ stack r, r ∈ stack →
      motive stack r (.broken Schema.cut (.circular r) .warning))
    (lost : ∀ stack r problem, r ∉ stack → find .schemas schemas r = .error problem →
      motive stack r (.broken Schema.empty problem .error))
    (jump : ∀ stack r target follow, r ∉ stack → find .schemas schemas r = .ok target →
      (∀ r', target.Exposes r' → motive (r :: stack) r' (follow r')) →
      motive stack r (expandWith follow target))
    (s : Schema) :
    ∃ follow, expand schemas s = expandWith follow s ∧
      ∀ r, s.Exposes r → motive [] r (follow r) := by
  refine ⟨_, rfl, fun r hr => ?_⟩
  refine expandReference_induction (allTargets schemas s) ?_ cut lost jump _ _ _
    List.nodup_nil (List.nil_subset _) ?_ (by simp)
  · intro r' target hfind r'' hr''
    obtain ⟨e, he, rfl⟩ := mem_of_find_eq_ok hfind
    rw [allTargets, targetsOfEntries_eq, List.mem_append, List.mem_flatMap]
    exact Or.inr ⟨e, he, mem_targets_of_exposes hr''⟩
  · exact List.mem_append_left _ (mem_targets_of_exposes hr)

/-- A persistent property holds everywhere in the expansion of a schema when it holds everywhere in
the schema and in the components, and of circular markers if any chain is cut. -/
theorem contains_expand {schemas : Entries Schema} {holds : Schema → Prop}
    (hpersistent : Persistent holds) {s : Schema} (hs : ∀ t, s.Contains t → holds t)
    (hschemas : ∀ e ∈ schemas, ∀ t, e.2.Contains t → holds t)
    (hcut : ∀ r, .circular r ∈ (expand schemas s).problems → holds Schema.cut) :
    ∀ t, (expand schemas s).value.Contains t → holds t := by
  obtain ⟨follow, hexpand, hfollow⟩ := exists_follow_expand schemas
    (motive := fun _ _ result => (∀ r, .circular r ∈ result.problems → holds Schema.cut) →
      ∀ t, result.value.Contains t → holds t)
    (fun stack r _ hcut => forall_reaches_of_children_eq_nil rfl
      (hcut r (by simp [Resolution.broken, Resolution.problems])))
    (fun _ _ _ _ _ _ => forall_reaches_of_children_eq_nil rfl hpersistent.empty)
    (fun stack r target follow _ hfind hfollow hcut => by
      obtain ⟨e, he, rfl⟩ := mem_of_find_eq_ok hfind
      refine contains_expandWith follow hpersistent (hschemas e he)
        fun next hnext => hfollow next hnext fun r' hr' => ?_
      exact hcut r' ((mem_problems_expandWith follow).mpr ⟨next, hnext, hr'⟩))
    s
  rw [hexpand] at hcut ⊢
  refine contains_expandWith follow hpersistent hs fun next hnext =>
    hfollow next hnext fun r hr => ?_
  exact hcut r ((mem_problems_expandWith follow).mpr ⟨next, hnext, hr⟩)

end MockApi.Reference
