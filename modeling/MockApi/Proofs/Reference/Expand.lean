import MockApi.Proofs.Schema.Merge
import MockApi.Reference.Expand

/-! # Expansion, node by node

Expanding a node either follows its reference, or leaves a circular marker as it is, or expands the
children and then flattens `allOf`. What is found on the way is what is found below the children, in
their order.
-/

namespace MockApi

namespace Schema

/-- A node with its branches of `allOf` merged into it, when it has any. -/
def settled (s : Schema) : Schema := if s.allOf.isSome then s.flattenAllOf else s

theorem settled_of_allOf_none {s : Schema} (h : s.allOf = none) : s.settled = s := by
  rw [settled, h]
  rfl

/-- What a node has of its own is laid over the branches. -/
theorem settled_of_allOf {s : Schema} {branches : List Schema} (h : s.allOf = some branches) :
    s.settled = merge (mergeAll branches) s.ownPart := by
  rw [settled, h, Option.isSome_some, if_pos rfl, flattenAllOf, h, Option.getD_some,
    mergeAll_concat]

/-- A reference that expanding the node meets: references and circular markers end the walk. -/
def Exposes (s : Schema) (reference : String) : Prop :=
  ∃ t, Reaches (fun u => u.reference = none ∧ u.circular = false) s t ∧ t.reference = some reference

theorem exposes_of_reference {s : Schema} {reference : String}
    (h : s.reference = some reference) : s.Exposes reference :=
  ⟨s, .refl s, h⟩

theorem exposes_of_child {s t : Schema} {reference : String} (hreference : s.reference = none)
    (hcircular : s.circular = false) (ht : t ∈ s.children) (h : t.Exposes reference) :
    s.Exposes reference := by
  obtain ⟨u, hwalk, hu⟩ := h
  exact ⟨u, .step ⟨hreference, hcircular⟩ ht hwalk, hu⟩

theorem exposes_iff_of_reference {s : Schema} {own reference : String}
    (h : s.reference = some own) : s.Exposes reference ↔ reference = own := by
  constructor
  · rintro ⟨t, hwalk, ht⟩
    cases hwalk with
    | refl => exact Option.some.inj (ht.symm.trans h)
    | step hs => simp [h] at hs
  · rintro rfl
    exact exposes_of_reference h

theorem exposes_iff_of_open {s : Schema} {reference : String} (hreference : s.reference = none)
    (hcircular : s.circular = false) :
    s.Exposes reference ↔ ∃ t ∈ s.children, t.Exposes reference := by
  constructor
  · rintro ⟨u, hwalk, hu⟩
    cases hwalk with
    | refl => simp [hreference] at hu
    | step _ hc hwalk => exact ⟨_, hc, u, hwalk, hu⟩
  · rintro ⟨t, ht, h⟩
    exact exposes_of_child hreference hcircular ht h

theorem not_exposes_of_circular {s : Schema} {reference : String} (hreference : s.reference = none)
    (hcircular : s.circular = true) : ¬ s.Exposes reference := by
  rintro ⟨u, hwalk, hu⟩
  cases hwalk with
  | refl => simp [hreference] at hu
  | step hs => simp [hcircular] at hs

end Schema

namespace Reference

open Schema

variable (follow : String → Resolution Schema)

theorem expandEntries_eq (entries : List (String × Schema)) :
    expandEntries follow entries =
      ⟨entries.map fun e => (e.1, (expandWith follow e.2).value),
        entries.flatMap fun e => (expandWith follow e.2).findings⟩ := by
  induction entries with
  | nil => rw [expandEntries]; rfl
  | cons e rest ih =>
      rcases e with ⟨name, s⟩
      rw [expandEntries, ih]
      rfl

theorem expandList_eq (branches : List Schema) :
    expandList follow branches =
      ⟨branches.map fun s => (expandWith follow s).value,
        branches.flatMap fun s => (expandWith follow s).findings⟩ := by
  induction branches with
  | nil => rw [expandList]; rfl
  | cons s rest ih =>
      rw [expandList, ih]
      rfl

theorem expandBranches_eq (list : Option (List Schema)) :
    expandBranches follow list =
      ⟨list.map fun branches => branches.map fun s => (expandWith follow s).value,
        (list.getD []).flatMap fun s => (expandWith follow s).findings⟩ := by
  cases list with
  | none => rw [expandBranches]; rfl
  | some branches =>
      rw [expandBranches, expandList_eq]
      rfl

theorem expandProperties_eq (properties : Option (List (String × Schema))) :
    expandProperties follow properties =
      ⟨properties.map fun entries => entries.map fun e => (e.1, (expandWith follow e.2).value),
        ((properties.getD []).map Prod.snd).flatMap fun s => (expandWith follow s).findings⟩ := by
  cases properties with
  | none => rw [expandProperties]; rfl
  | some entries =>
      rw [expandProperties, expandEntries_eq, List.flatMap_map]
      rfl

theorem expandItems_eq (items : Option Schema) :
    expandItems follow items =
      ⟨items.map fun s => (expandWith follow s).value,
        items.toList.flatMap fun s => (expandWith follow s).findings⟩ := by
  cases items with
  | none => rw [expandItems]; rfl
  | some s =>
      rw [expandItems]
      simp [Resolution.map]

theorem expandAdditional_eq (additional : Option (Additional Schema)) :
    expandAdditional follow additional =
      ⟨additional.map fun
          | .flag allowed => .flag allowed
          | .schema s => .schema (expandWith follow s).value,
        (described additional).flatMap fun s => (expandWith follow s).findings⟩ := by
  match additional with
  | none => rw [expandAdditional]; rfl
  | some (.flag _) => rw [expandAdditional]; rfl
  | some (.schema s) =>
      rw [expandAdditional]
      simp [Resolution.map, described]

theorem expandWith_of_reference {s : Schema} {reference : String}
    (h : s.reference = some reference) : expandWith follow s = follow reference := by
  rcases s with ⟨_, circular, keywords, properties, items, additional, allOf, oneOf, anyOf⟩
  obtain rfl := h
  rw [expandWith]

theorem expandWith_of_circular {s : Schema} (hreference : s.reference = none)
    (hcircular : s.circular = true) : expandWith follow s = ⟨s, []⟩ := by
  rcases s with ⟨_, _, keywords, properties, items, additional, allOf, oneOf, anyOf⟩
  obtain rfl := hreference
  obtain rfl := hcircular
  rw [expandWith, if_pos rfl]

/-- A node that is no marker is expanded by expanding its children. -/
theorem expandWith_of_open {s : Schema} (hreference : s.reference = none)
    (hcircular : s.circular = false) :
    expandWith follow s =
      ⟨(s.mapChildren fun t => (expandWith follow t).value).settled,
        s.children.flatMap fun t => (expandWith follow t).findings⟩ := by
  rcases s with ⟨_, _, keywords, properties, items, additional, allOf, oneOf, anyOf⟩
  obtain rfl := hreference
  obtain rfl := hcircular
  rw [expandWith, if_neg (by simp)]
  simp only [expandProperties_eq, expandItems_eq, expandAdditional_eq, expandBranches_eq, children,
    List.flatMap_append]
  rfl

/-- What expanding a node does: it follows the reference, or leaves a marker, or goes on below. -/
theorem expandWith_cases (s : Schema) :
    (∃ reference, s.reference = some reference ∧ expandWith follow s = follow reference) ∨
    (s.reference = none ∧ s.circular = true ∧ expandWith follow s = ⟨s, []⟩) ∨
    (s.reference = none ∧ s.circular = false ∧ expandWith follow s =
      ⟨(s.mapChildren fun t => (expandWith follow t).value).settled,
        s.children.flatMap fun t => (expandWith follow t).findings⟩) := by
  cases hreference : s.reference with
  | some reference =>
      exact Or.inl ⟨reference, rfl, expandWith_of_reference follow hreference⟩
  | none =>
      cases hcircular : s.circular with
      | true => exact Or.inr (Or.inl ⟨rfl, rfl, expandWith_of_circular follow hreference hcircular⟩)
      | false => exact Or.inr (Or.inr ⟨rfl, rfl, expandWith_of_open follow hreference hcircular⟩)

/-! ## What is found -/

/-- A problem is found exactly when it is found at a reference that the node exposes. -/
theorem mem_problems_expandWith {s : Schema} {problem : Problem} :
    problem ∈ (expandWith follow s).problems ↔
      ∃ reference, s.Exposes reference ∧ problem ∈ (follow reference).problems := by
  induction s using childInduction with
  | step s ih =>
      obtain ⟨own, hreference, hexpand⟩ | ⟨hreference, hcircular, hexpand⟩ |
        ⟨hreference, hcircular, hexpand⟩ := expandWith_cases follow s
      · rw [hexpand]
        simp [exposes_iff_of_reference hreference]
      · rw [hexpand]
        simp [Resolution.problems, not_exposes_of_circular hreference hcircular]
      · have hchild : problem ∈ (expandWith follow s).problems ↔
            ∃ t ∈ s.children, problem ∈ (expandWith follow t).problems := by
          rw [hexpand]
          simp only [Resolution.problems, List.map_flatMap, List.mem_flatMap]
        rw [hchild]
        constructor
        · rintro ⟨t, ht, hproblem⟩
          obtain ⟨reference, hexposes, hfound⟩ := (ih t ht).mp hproblem
          exact ⟨reference, exposes_of_child hreference hcircular ht hexposes, hfound⟩
        · rintro ⟨reference, hexposes, hfound⟩
          obtain ⟨t, ht, hexposes⟩ := (exposes_iff_of_open hreference hcircular).mp hexposes
          exact ⟨t, ht, (ih t ht).mpr ⟨reference, hexposes, hfound⟩⟩

/-- A persistent property holds everywhere in an expanded node when it holds everywhere in the node
and in what stands for its references. -/
theorem contains_expandWith {holds : Schema → Prop} (hpersistent : Persistent holds) {s : Schema}
    (hs : ∀ t, s.Contains t → holds t)
    (hfollow : ∀ r, s.Exposes r → ∀ t, (follow r).value.Contains t → holds t) :
    ∀ t, (expandWith follow s).value.Contains t → holds t := by
  induction s using childInduction with
  | step s ih =>
      obtain ⟨own, hreference, hexpand⟩ | ⟨_, _, hexpand⟩ | ⟨hreference, hcircular, hexpand⟩ :=
        expandWith_cases follow s
      · rw [hexpand]
        exact hfollow own (exposes_of_reference hreference)
      · rw [hexpand]
        exact hs
      · rw [hexpand]
        rw [forall_contains_iff] at hs
        have hchildren := hpersistent.contains_mapChildren hs.1 fun t ht =>
          ih t ht (hs.2 t ht) fun r hr =>
            hfollow r (exposes_of_child hreference hcircular ht hr)
        dsimp only
        unfold settled
        split
        next => exact hpersistent.contains_flattenAllOf hchildren
        next => exact hchildren

end Reference

end MockApi
