import MockApi.Entries
import MockApi.Proofs.Schema.Children

/-! # Slots of a node

A node directly below another stands in a slot of it. The outline of a node is all of it but what
stands in its slots: its keywords, the names of its properties in order, the number of its branches
and the kind of its additional values. Outline and slots make up the node.
-/

namespace MockApi

/-- The flag that permits or forbids additional values, if they are not described. -/
def Additional.flag? {α : Type} : Additional α → Option Bool
  | .flag allowed => some allowed
  | .schema _ => none

namespace Schema

/-- Where a node stands directly below another; properties and branches are counted from zero. -/
inductive Slot where
  | property (index : Nat)
  | items
  | additional
  | oneOf (index : Nat)
  | anyOf (index : Nat)
  | allOf (index : Nat)
deriving DecidableEq, Repr

/-- The node in a slot. -/
def at? (s : Schema) : Slot → Option Schema
  | .property index => (s.properties.getD [])[index]?.map Prod.snd
  | .items => s.items
  | .additional => (described s.additional).head?
  | .oneOf index => (s.oneOf.getD [])[index]?
  | .anyOf index => (s.anyOf.getD [])[index]?
  | .allOf index => (s.allOf.getD [])[index]?

/-- Two nodes differ in nothing but what stands in their slots. -/
structure SameOutline (a b : Schema) : Prop where
  reference : a.reference = b.reference
  circular : a.circular = b.circular
  keywords : a.keywords = b.keywords
  properties : a.properties.map Entries.keys = b.properties.map Entries.keys
  items : a.items.isSome = b.items.isSome
  additional : a.additional.map Additional.flag? = b.additional.map Additional.flag?
  oneOf : a.oneOf.map List.length = b.oneOf.map List.length
  anyOf : a.anyOf.map List.length = b.anyOf.map List.length
  allOf : a.allOf.map List.length = b.allOf.map List.length

theorem mem_children_of_at? {s t : Schema} {slot : Slot} (h : s.at? slot = some t) :
    t ∈ s.children := by
  simp only [children, List.mem_append, List.mem_map, Option.mem_toList]
  cases slot with
  | property index =>
      obtain ⟨e, he, rfl⟩ := Option.map_eq_some_iff.mp h
      have hmem : ∃ e' ∈ s.properties.getD [], e'.2 = e.2 := ⟨e, List.mem_of_getElem? he, rfl⟩
      simp only [hmem, true_or]
  | items =>
      have hitems : s.items = some t := h
      simp [hitems]
  | additional =>
      have hmem : t ∈ described s.additional := List.mem_of_head? h
      simp [hmem]
  | oneOf index | anyOf index | allOf index =>
      have hmem := List.mem_of_getElem? h
      simp [hmem]

theorem at?_mapChildren (f : Schema → Schema) (s : Schema) (slot : Slot) :
    (s.mapChildren f).at? slot = (s.at? slot).map f := by
  have hbranches : ∀ (list : Option (List Schema)) (index : Nat),
      ((list.map fun branches => branches.map f).getD [])[index]? =
        (list.getD [])[index]?.map f := by
    intro list index
    cases list <;> simp
  cases slot with
  | property index =>
      simp only [at?, mapChildren]
      cases s.properties <;> simp [Option.map_map, Function.comp_def]
  | items => rfl
  | additional =>
      simp only [at?, mapChildren]
      rcases s.additional with _ | _ | _ <;> rfl
  | oneOf index | anyOf index | allOf index => exact hbranches _ index

theorem sameOutline_mapChildren (f : Schema → Schema) (s : Schema) :
    (s.mapChildren f).SameOutline s where
  reference := rfl
  circular := rfl
  keywords := rfl
  properties := by
    simp only [mapChildren]
    cases s.properties <;> simp [Entries.keys]
  items := by simp [mapChildren]
  additional := by
    simp only [mapChildren]
    rcases s.additional with _ | _ | _ <;> rfl
  oneOf := by simp [mapChildren, Function.comp_def]
  anyOf := by simp [mapChildren, Function.comp_def]
  allOf := by simp [mapChildren, Function.comp_def]

namespace SameOutline

variable {a b : Schema}

theorem symm (h : a.SameOutline b) : b.SameOutline a :=
  ⟨h.reference.symm, h.circular.symm, h.keywords.symm, h.properties.symm, h.items.symm,
    h.additional.symm, h.oneOf.symm, h.anyOf.symm, h.allOf.symm⟩

theorem trans {c : Schema} (h : a.SameOutline b) (h' : b.SameOutline c) : a.SameOutline c :=
  ⟨h.reference.trans h'.reference, h.circular.trans h'.circular, h.keywords.trans h'.keywords,
    h.properties.trans h'.properties, h.items.trans h'.items, h.additional.trans h'.additional,
    h.oneOf.trans h'.oneOf, h.anyOf.trans h'.anyOf, h.allOf.trans h'.allOf⟩

theorem isSome_getElem?_congr {α : Type} {xs ys : List α} (h : xs.length = ys.length)
    (index : Nat) :
    xs[index]?.isSome = ys[index]?.isSome := by
  rw [Bool.eq_iff_iff, isSome_getElem?, isSome_getElem?, h]

theorem branches_isSome {list other : Option (List Schema)}
    (h : list.map List.length = other.map List.length) (index : Nat) :
    (list.getD [])[index]?.isSome = (other.getD [])[index]?.isSome := by
  cases list <;> cases other <;> simp at h
  next => rfl
  next => exact isSome_getElem?_congr h index

/-- Nodes with the same outline have the same slots filled. -/
theorem isSome_at? (h : a.SameOutline b) (slot : Slot) :
    (a.at? slot).isSome = (b.at? slot).isSome := by
  cases slot with
  | property index =>
      have hlength := congrArg (Option.map List.length) h.properties
      simp only [at?, Option.isSome_map]
      cases ha : a.properties <;> cases hb : b.properties <;>
        simp [ha, hb, Entries.keys] at hlength
      next => rfl
      next => exact isSome_getElem?_congr hlength index
  | items => exact h.items
  | additional =>
      have hadditional := h.additional
      simp only [at?]
      rcases ha : a.additional with _ | _ | _ <;> rcases hb : b.additional with _ | _ | _ <;>
        simp_all [described, Additional.flag?]
  | oneOf index => exact branches_isSome h.oneOf index
  | anyOf index => exact branches_isSome h.anyOf index
  | allOf index => exact branches_isSome h.allOf index

theorem branches_eq {list other : Option (List Schema)}
    (h : list.map List.length = other.map List.length)
    (hslots : ∀ index : Nat, (list.getD [])[index]? = (other.getD [])[index]?) : list = other := by
  cases list <;> cases other <;> simp at h
  · rfl
  · exact congrArg some (List.ext_getElem? hslots)

theorem properties_eq {properties other : Option (List (String × Schema))}
    (h : properties.map Entries.keys = other.map Entries.keys)
    (hslots : ∀ index : Nat, (properties.getD [])[index]?.map Prod.snd =
      (other.getD [])[index]?.map Prod.snd) : properties = other := by
  cases properties <;> cases other <;> simp at h
  next => rfl
  next entries entries' =>
    refine congrArg some (List.ext_getElem? fun index => ?_)
    have hname : entries[index]?.map Prod.fst = entries'[index]?.map Prod.fst := by
      have hget := congrArg (fun names : List String => names[index]?) h
      simpa [Entries.keys] using hget
    have hschema := hslots index
    simp only [Option.getD_some] at hschema
    cases he : entries[index]? <;> cases he' : entries'[index]? <;> simp_all [Prod.ext_iff]

/-- Outline and slots make up a node. -/
theorem eq_of_at? (h : a.SameOutline b) (hslots : ∀ slot, a.at? slot = b.at? slot) : a = b := by
  have hproperties := properties_eq h.properties fun index => hslots (.property index)
  have hitems : a.items = b.items := hslots .items
  have hadditional : a.additional = b.additional := by
    have hflag := h.additional
    have hslot := hslots .additional
    simp only [at?] at hslot
    rcases ha : a.additional with _ | _ | _ <;> rcases hb : b.additional with _ | _ | _ <;>
      simp_all [described, Additional.flag?]
  have honeOf := branches_eq h.oneOf fun index => hslots (.oneOf index)
  have hanyOf := branches_eq h.anyOf fun index => hslots (.anyOf index)
  have hallOf := branches_eq h.allOf fun index => hslots (.allOf index)
  have hreference := h.reference
  have hcircular := h.circular
  have hkeywords := h.keywords
  cases a
  cases b
  simp_all

end SameOutline

end Schema

end MockApi
