import MockApi.Schema.Basic

/-! # Walking down a schema

The sub-schemas directly below a node, in the order in which they are expanded, and the walks that
descend through them. A walk is restricted by the nodes that it may leave: a reference hides what
stands beside it, a circular marker whatever is below it.
-/

namespace MockApi.Schema

/-- The names of the declared properties. -/
def propertyNames (s : Schema) : List String := (s.properties.getD []).map Prod.fst

/-- The schema of described additional values. -/
def described : Option (Additional Schema) → List Schema
  | some (.schema s) => [s]
  | _ => []

/-- The nodes directly below a node. -/
def children (s : Schema) : List Schema :=
  (s.properties.getD []).map Prod.snd ++ s.items.toList ++ described s.additional ++
    s.oneOf.getD [] ++ s.anyOf.getD [] ++ s.allOf.getD []

theorem sizeOf_lt_of_mem_branches {list : Option (List Schema)} {t : Schema}
    (h : t ∈ list.getD []) : sizeOf t < sizeOf list := by
  cases list with
  | none => simp at h
  | some branches =>
      have hlt : sizeOf t < sizeOf branches := List.sizeOf_lt_of_mem h
      rw [Option.some.sizeOf_spec]
      omega

theorem sizeOf_lt_of_mem_properties {properties : Option (List (String × Schema))}
    {e : String × Schema} (h : e ∈ properties.getD []) : sizeOf e.2 < sizeOf properties := by
  cases properties with
  | none => simp at h
  | some entries =>
      have hlt : sizeOf e < sizeOf entries := List.sizeOf_lt_of_mem h
      rcases e with ⟨name, t⟩
      simp only [Prod.mk.sizeOf_spec, Option.some.sizeOf_spec] at hlt ⊢
      omega

theorem sizeOf_lt_of_mem_items {items : Option Schema} {t : Schema}
    (h : t ∈ items.toList) : sizeOf t < sizeOf items := by
  obtain rfl := Option.mem_toList.mp h
  rw [Option.some.sizeOf_spec]
  omega

theorem sizeOf_lt_of_mem_described {additional : Option (Additional Schema)} {t : Schema}
    (h : t ∈ described additional) : sizeOf t < sizeOf additional := by
  match additional, h with
  | some (.schema s), h =>
      obtain rfl : t = s := by simpa [described] using h
      rw [Option.some.sizeOf_spec, Additional.schema.sizeOf_spec]
      omega

theorem forall_mem_children_iff {holds : Schema → Prop} {s : Schema} :
    (∀ t ∈ s.children, holds t) ↔
      (∀ e ∈ s.properties.getD [], holds e.2) ∧ (∀ t ∈ s.items.toList, holds t) ∧
        (∀ t ∈ described s.additional, holds t) ∧ (∀ t ∈ s.oneOf.getD [], holds t) ∧
        (∀ t ∈ s.anyOf.getD [], holds t) ∧ (∀ t ∈ s.allOf.getD [], holds t) := by
  simp only [children, List.forall_mem_append, List.forall_mem_map, and_assoc]

theorem mem_children_of_property {s : Schema} {e : String × Schema} (h : e ∈ s.properties.getD []) :
    e.2 ∈ s.children := by
  have hmem : e.2 ∈ (s.properties.getD []).map Prod.snd := List.mem_map_of_mem h
  simp [children, hmem]

theorem mem_children_of_items {s t : Schema} (h : t ∈ s.items.toList) : t ∈ s.children := by
  simp [children, h]

theorem mem_children_of_described {s t : Schema} (h : t ∈ described s.additional) :
    t ∈ s.children := by
  simp [children, h]

theorem mem_children_of_alternatives {s b : Schema} {branches : List Schema}
    (h : s.alternatives = some branches) (hb : b ∈ branches) : b ∈ s.children := by
  unfold alternatives branches? at h
  rcases Option.or_eq_some_iff.mp h with h | ⟨_, h⟩
  · have hlist := (Option.filter_eq_some_iff.mp h).1
    simp [children, hlist, hb]
  · have hlist := (Option.filter_eq_some_iff.mp h).1
    simp [children, hlist, hb]

theorem sizeOf_eq (s : Schema) :
    sizeOf s = 1 + sizeOf s.reference + sizeOf s.circular + sizeOf s.keywords +
      sizeOf s.properties + sizeOf s.items + sizeOf s.additional + sizeOf s.allOf +
      sizeOf s.oneOf + sizeOf s.anyOf := by
  cases s
  exact Schema.mk.sizeOf_spec ..

theorem sizeOf_lt_of_mem_children {s : Schema} : ∀ t ∈ s.children, sizeOf t < sizeOf s := by
  rw [sizeOf_eq s]
  refine forall_mem_children_iff.mpr ⟨?_, ?_, ?_, ?_, ?_, ?_⟩
  · intro e he
    have hlt := sizeOf_lt_of_mem_properties he
    omega
  · intro t ht
    have hlt := sizeOf_lt_of_mem_items ht
    omega
  · intro t ht
    have hlt := sizeOf_lt_of_mem_described ht
    omega
  all_goals
    intro t ht
    have hlt := sizeOf_lt_of_mem_branches ht
    omega

/-- What holds of a node as soon as it holds of the nodes directly below holds of every node. -/
@[elab_as_elim]
theorem childInduction {motive : Schema → Prop}
    (step : ∀ s, (∀ t ∈ s.children, motive t) → motive s) (s : Schema) : motive s :=
  step s fun t _ => childInduction step t
termination_by sizeOf s
decreasing_by exact sizeOf_lt_of_mem_children _ (by assumption)

/-! ## Changing all children at once -/

/-- Changes the nodes directly below a node. -/
def mapChildren (f : Schema → Schema) (s : Schema) : Schema :=
  { s with
    properties := s.properties.map fun entries => entries.map fun e => (e.1, f e.2)
    items := s.items.map f
    additional := s.additional.map fun
      | .flag allowed => .flag allowed
      | .schema t => .schema (f t)
    oneOf := s.oneOf.map fun branches => branches.map f
    anyOf := s.anyOf.map fun branches => branches.map f
    allOf := s.allOf.map fun branches => branches.map f }

@[simp] theorem children_mapChildren (f : Schema → Schema) (s : Schema) :
    (s.mapChildren f).children = s.children.map f := by
  rcases s with ⟨reference, circular, keywords, properties, items, additional, allOf, oneOf, anyOf⟩
  simp only [children, mapChildren, List.map_append]
  congr 1
  · congr 1
    · congr 1
      · congr 1
        · congr 1
          · cases properties <;> simp [Function.comp_def]
          · cases items <;> rfl
        · rcases additional with _ | _ | _ <;> rfl
      · cases oneOf <;> rfl
    · cases anyOf <;> rfl
  · cases allOf <;> rfl

theorem mapChildren_congr {f g : Schema → Schema} {s : Schema}
    (h : ∀ t ∈ s.children, f t = g t) : s.mapChildren f = s.mapChildren g := by
  obtain ⟨hproperties, hitems, hadditional, honeOf, hanyOf, hallOf⟩ := forall_mem_children_iff.mp h
  have hbranches : ∀ list : Option (List Schema), (∀ t ∈ list.getD [], f t = g t) →
      (list.map fun branches => branches.map f) = list.map fun branches => branches.map g := by
    intro list hlist
    cases list with
    | none => rfl
    | some branches => exact congrArg some (List.map_congr_left hlist)
  unfold mapChildren
  congr 1
  · cases hs : s.properties with
    | none => rfl
    | some entries =>
        refine congrArg some (List.map_congr_left fun e he => ?_)
        rw [hproperties e (by simpa [hs] using he)]
  · cases hs : s.items with
    | none => rfl
    | some t => exact congrArg some (hitems t (by simp [hs]))
  · match hs : s.additional with
    | none => rfl
    | some (.flag _) => rfl
    | some (.schema t) =>
        exact congrArg (some ∘ Additional.schema) (hadditional t (by simp [hs, described]))
  · exact hbranches s.allOf hallOf
  · exact hbranches s.oneOf honeOf
  · exact hbranches s.anyOf hanyOf

theorem mapChildren_mapChildren (f g : Schema → Schema) (s : Schema) :
    (s.mapChildren f).mapChildren g = s.mapChildren fun t => g (f t) := by
  rcases s with ⟨reference, circular, keywords, properties, items, additional, allOf, oneOf, anyOf⟩
  rcases additional with _ | _ | _ <;> simp [mapChildren, Function.comp_def]

theorem mapChildren_eq_self {f : Schema → Schema} {s : Schema}
    (h : ∀ t ∈ s.children, f t = t) : s.mapChildren f = s := by
  rw [mapChildren_congr (g := id) h]
  rcases s with ⟨reference, circular, keywords, properties, items, additional, allOf, oneOf, anyOf⟩
  rcases additional with _ | _ | _ <;> simp [mapChildren]

/-! ## Walks -/

/-- A walk down from a node to another; every node that it leaves satisfies `through`. -/
inductive Reaches (through : Schema → Prop) : Schema → Schema → Prop
  | refl (s : Schema) : Reaches through s s
  | step {s c t : Schema} (hs : through s) (hc : c ∈ s.children) (ht : Reaches through c t) :
      Reaches through s t

/-- The second node lies in the first one, at any depth. -/
def Contains : Schema → Schema → Prop := Reaches fun _ => True

/-- The second node lies in the first one and not strictly below a circular marker. -/
def Sees : Schema → Schema → Prop := Reaches fun s => s.circular = false

theorem Reaches.mono {through through' : Schema → Prop} {s t : Schema} (h : Reaches through s t)
    (hthrough : ∀ u, through u → through' u) : Reaches through' s t := by
  induction h with
  | refl s => exact .refl s
  | step hs hc _ ih => exact .step (hthrough _ hs) hc ih

theorem forall_reaches_iff {through holds : Schema → Prop} {s : Schema} :
    (∀ t, Reaches through s t → holds t) ↔
      holds s ∧ (through s → ∀ c ∈ s.children, ∀ t, Reaches through c t → holds t) := by
  constructor
  · intro h
    exact ⟨h s (.refl s), fun hs c hc t ht => h t (.step hs hc ht)⟩
  · rintro ⟨hs, hbelow⟩ t ht
    cases ht with
    | refl => exact hs
    | step hthrough hc ht => exact hbelow hthrough _ hc t ht

theorem forall_reaches_of_children_eq_nil {through holds : Schema → Prop} {s : Schema}
    (hchildren : s.children = []) (hs : holds s) : ∀ t, Reaches through s t → holds t :=
  forall_reaches_iff.mpr ⟨hs, fun _ => by simp [hchildren]⟩

theorem forall_contains_iff {holds : Schema → Prop} {s : Schema} :
    (∀ t, s.Contains t → holds t) ↔
      holds s ∧ ∀ c ∈ s.children, ∀ t, c.Contains t → holds t := by
  rw [Contains, forall_reaches_iff, true_imp_iff]

end MockApi.Schema
