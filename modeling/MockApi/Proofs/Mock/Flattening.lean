import MockApi.Proofs.Mock.Compile
import MockApi.Proofs.Mock.Steps
import MockApi.Proofs.Reference.Flatten

/-! # Compiling before and after expanding

A compiler flattens a node on the way down, while expanding flattens the branches first. Without
references and examples both lead to the same expression as long as, in all that is merged on the
way down, each schema can be laid over those before it. Otherwise a branch can get lost.
-/

namespace MockApi

namespace Schema

/-- Wherever the schema is flattened on the way down, the branches and the node itself can be laid
over one another in their order. -/
inductive Orderly : Schema → Prop
  | bare {s : Schema} (hallOf : s.allOf = none) (hchildren : ∀ t ∈ s.children, Orderly t) :
      Orderly s
  | flattened {s : Schema} {branches : List Schema} (hallOf : s.allOf = some branches)
      (hlaid : LaidInOrder empty (branches ++ [s.ownPart])) (hflat : Orderly s.flattenAllOf) :
      Orderly s

/-- No node of the schema has `allOf`. -/
def Bare (s : Schema) : Prop := ∀ t, s.Contains t → t.allOf = none

theorem persistent_bare : Persistent fun s => s.allOf = none where
  empty := rfl
  merge a b ha hb := by
    rw [merge_allOf, ha, hb]
    rfl
  ownPart _ _ := rfl
  mapChildren f s hs := by
    simp [mapChildren, hs]

theorem Bare.laysOver {lower upper : Schema} (hlower : lower.Bare) (hupper : upper.Bare) :
    LaysOver lower upper := by
  induction upper using childInduction generalizing lower with
  | step upper ih =>
      rw [Bare, forall_contains_iff] at hlower hupper
      refine .node hupper.1 (fun branches h => ?_) fun x y hmeets => ?_
      · simp [hlower.1] at h
      · exact ih y hmeets.right_mem (hlower.2 x hmeets.left_mem) (hupper.2 y hmeets.right_mem)

theorem Bare.orderly {s : Schema} (h : s.Bare) : s.Orderly := by
  induction s using childInduction with
  | step s ih =>
      rw [Bare, forall_contains_iff] at h
      exact .bare h.1 fun t ht => ih t ht (h.2 t ht)

theorem laidInOrder_of_bare {start : Schema} {list : List Schema} (hstart : start.Bare)
    (hlist : ∀ t ∈ list, t.Bare) : LaidInOrder start list := by
  induction list generalizing start with
  | nil => trivial
  | cons t rest ih =>
      have ht := hlist t List.mem_cons_self
      exact ⟨hstart.laysOver ht, ih (persistent_bare.contains_merge hstart ht) fun u hu =>
        hlist u (List.mem_cons_of_mem _ hu)⟩

/-- One level of `allOf` is always in order. -/
theorem orderly_of_bare_parts {s : Schema} {branches : List Schema}
    (hallOf : s.allOf = some branches) (hbranches : ∀ t ∈ branches, t.Bare)
    (hown : s.ownPart.Bare) : s.Orderly := by
  have hempty : empty.Bare := forall_reaches_of_children_eq_nil children_empty rfl
  have hlist : ∀ t ∈ branches ++ [s.ownPart], t.Bare := by
    intro t ht
    rcases List.mem_append.mp ht with ht | ht
    · exact hbranches t ht
    · exact List.mem_singleton.mp ht ▸ hown
  refine .flattened hallOf (laidInOrder_of_bare hempty hlist) (Bare.orderly ?_)
  rw [flattenAllOf, hallOf, Option.getD_some]
  exact mergeAll_induction (motive := Bare) hempty (fun a b => persistent_bare.contains_merge) hlist

end Schema

namespace Compiler

open Schema Reference

variable {c : Compiler} {s : Schema} {follow : String → Resolution Schema}

/-- Without examples, a node is decided by a rule or by its enumeration. -/
theorem decided?_of_not_useExample (hexample : c.context.useExample = false)
    (hmarker : s.isMarker = false) (site : Site) :
    c.decided? s site = match site.key.bind c.rule? with
      | some rule => some ⟨rule.expression, [], []⟩
      | none => (enumeration? s).map fun e => ⟨e, [], []⟩ := by
  rw [decided?, mismatch?, example?, hexample, hmarker]
  rfl

theorem compileWith_of_allOf (again : Schema → Site → Compiled) {site : Site}
    (hexample : c.context.useExample = false) (h : c.decided? s site = none)
    (hallOf : s.allOf.isSome) :
    c.compileWith again s site = again s.flattenAllOf site := by
  cases s
  rw [compileWith, h, mismatch?, hexample]
  simp only [hallOf]
  rfl

/-- The enumeration of a node stays on top when the node is expanded. -/
theorem enumeration?_expanded {e : Expression} (h : s.IsOpen) (henum : enumeration? s = some e) :
    enumeration? (expanded follow s) = some e := by
  obtain ⟨values, hfilter, -⟩ := Option.map_eq_some_iff.mp henum
  have hvalues := (Option.filter_eq_some_iff.mp hfilter).1
  have hexpanded : (expanded follow s).keywords.enum = some values := by
    cases hallOf : s.allOf with
    | none =>
        rw [expanded_of_allOf_none h hallOf]
        exact hvalues
    | some branches =>
        have hown : (expanded follow s.ownPart).keywords = s.keywords := by
          rw [expanded_of_allOf_none h.ownPart rfl]
          rfl
        rw [expanded_of_allOf h hallOf, merge_keywords, Keywords.overlay, hown, hvalues,
          Option.some_or]
  rw [enumeration?, hexpanded, ← hvalues]
  exact henum

/-- A node that is decided at once is decided alike when it is expanded. -/
theorem decided?_expanded {done : Compiled} {site : Site}
    (hexample : c.context.useExample = false) (h : s.IsOpen)
    (hdecided : c.decided? s site = some done) :
    c.decided? (expanded follow s) site = some done := by
  have hmarker : (expanded follow s).isMarker = false :=
    contains_expanded persistent_open h h.unmarked _ (.refl _)
  rw [decided?_of_not_useExample hexample h.isMarker_eq_false] at hdecided
  rw [decided?_of_not_useExample hexample hmarker]
  cases hrule : site.key.bind c.rule? with
  | some rule =>
      rw [hrule] at hdecided
      exact hdecided
  | none =>
      rw [hrule] at hdecided
      obtain ⟨e, henum, rfl⟩ := Option.map_eq_some_iff.mp hdecided
      dsimp only
      rw [enumeration?_expanded h henum]
      rfl

/-- Without examples, an orderly schema compiles to the same before and after it is expanded. -/
theorem compile_expanded (hexample : c.context.useExample = false) (h : s.IsOpen)
    (horderly : s.Orderly) (site : Site) :
    c.compile (some (expanded follow s)) site = c.compile (some s) site := by
  -- The induction follows the compiler, which flattens a node before it looks at the children.
  induction horderly generalizing site with
  | @bare s hallOf _ ih =>
      rw [expanded_of_allOf_none h hallOf, compile_eq, compile_eq]
      refine compileWith_mapChildren hallOf fun t ht site => ?_
      rw [← compile_eq, ← compile_eq]
      exact ih t ht (h.of_mem_children ht) site
  | @flattened s branches hallOf hlaid _ ih =>
      cases hdecided : c.decided? s site with
      | some done =>
          rw [compile_eq, compile_eq, compileWith_of_decided? hdecided]
          exact compileWith_of_decided? (decided?_expanded hexample h hdecided)
      | none =>
          have hflat := ih h.flattenAllOf site
          rw [expanded_flattenAllOf h hallOf hlaid] at hflat
          rw [hflat, compile_eq c s, compileWith_of_allOf _ hexample hdecided (by simp [hallOf])]

/-! ## Schemas without references -/

/-- A schema that tells nothing but a type. -/
def leaf (type : SchemaType) : Schema where
  keywords := { type := some type }

/-- A schema with properties of which only the types are told. -/
def record (properties : List (String × SchemaType)) : Schema where
  properties := some (properties.map fun p => (p.1, leaf p.2))

theorem children_record (properties : List (String × SchemaType)) :
    (record properties).children = properties.map fun p => leaf p.2 := by
  simp [children, record, described, Function.comp_def]

theorem forall_contains_record {holds : Schema → Prop} {properties : List (String × SchemaType)}
    (hrecord : holds (record properties)) (hleaf : ∀ type, holds (leaf type)) :
    ∀ t, (record properties).Contains t → holds t := by
  refine forall_contains_iff.mpr ⟨hrecord, ?_⟩
  rw [children_record]
  exact List.forall_mem_map.mpr fun p _ => forall_reaches_of_children_eq_nil rfl (hleaf p.2)

theorem bare_record (properties : List (String × SchemaType)) : (record properties).Bare :=
  forall_contains_record rfl fun _ => rfl

/-- Properties with names of their own can be laid over anything. -/
theorem laysOver_record {lower : Schema} {properties : List (String × SchemaType)}
    (h : ∀ p ∈ properties, p.1 ∉ lower.propertyNames) : LaysOver lower (record properties) := by
  have hundescribed : (record properties).Undescribed := forall_contains_record rfl fun _ => rfl
  refine .node rfl (fun _ _ => Or.inr (Or.inr hundescribed)) ?_
  rintro x y (⟨hx, hy⟩ | ⟨_, hy⟩ | ⟨_, hy⟩)
  · obtain ⟨p, hp, hname⟩ := List.mem_map.mp hy
    refine (h p hp ?_).elim
    rw [(Prod.mk.inj hname).1]
    exact List.mem_map_of_mem hx
  · cases hy
  · cases hy

/-- Without references and examples, a schema compiles to the same before and after it is expanded,
if all that is merged on the way down can be laid over what is before it. -/
theorem compile_expand (hexample : c.context.useExample = false)
    (hopen : ∀ t, s.Contains t → t.isMarker = false) (hwellFormed : s.WellFormed)
    (horderly : s.Orderly) (schemas : Entries Schema) (site : Site) :
    c.compile (some (expand schemas s).value) site = c.compile (some s) site :=
  compile_expanded hexample ⟨hopen, hwellFormed⟩ horderly site

/-- A record whose branch has a branch of its own. -/
def nested : Schema :=
  { record [("isOpen", .boolean)] with
    allOf := some [{ record [("label", .string)] with allOf := some [record [("id", .integer)]] }] }

theorem flattenAllOf_nested :
    nested.flattenAllOf =
      { record [("label", .string), ("isOpen", .boolean)] with
        allOf := some [record [("id", .integer)]] } := by
  simp [nested, record, flattenAllOf, mergeAll, ownPart, empty, merge, mergeProperties,
    mergeEntries, mergeItems, mergeAdditional, Entries.insert, Entries.alter, Keywords.overlay,
    List.lookup_cons, List.lookup_nil]

theorem orderly_nested : nested.Orderly := by
  have hallOf : nested.flattenAllOf.allOf = some [record [("id", .integer)]] := by
    rw [flattenAllOf_nested]
  have hown : nested.flattenAllOf.ownPart = record [("label", .string), ("isOpen", .boolean)] := by
    rw [flattenAllOf_nested]
    rfl
  refine .flattened rfl ⟨.empty _, laysOver_record ?_, trivial⟩ (orderly_of_bare_parts hallOf ?_ ?_)
  · rw [empty_merge (by decide)]
    decide
  · exact List.forall_mem_singleton.mpr (bare_record _)
  · rw [hown]
    exact bare_record _

theorem forall_contains_nested {holds : Schema → Prop} (hnested : holds nested)
    (hbranch : holds { record [("label", .string)] with allOf := some [record [("id", .integer)]] })
    (hrecord : holds (record [("id", .integer)])) (hleaf : ∀ type, holds (leaf type)) :
    ∀ t, nested.Contains t → holds t := by
  have hbelow : ∀ type, ∀ t, (leaf type).Contains t → holds t := fun type =>
    forall_reaches_of_children_eq_nil rfl (hleaf type)
  refine forall_contains_iff.mpr ⟨hnested, ?_⟩
  rintro t (_ | ⟨_, _ | ⟨_, ⟨⟩⟩⟩)
  · exact hbelow _
  · refine forall_contains_iff.mpr ⟨hbranch, ?_⟩
    rintro t (_ | ⟨_, _ | ⟨_, ⟨⟩⟩⟩)
    · exact hbelow _
    · exact forall_contains_record hrecord hleaf

/-- The record compiles to the same before and after it is expanded. -/
theorem compile_expand_nested :
    let c : Compiler := ⟨⟨"/labels", .get, 5, false, false, []⟩, ⟨fun _ => none⟩, 2024⟩
    c.compile (some (expand [] nested).value) {} = c.compile (some nested) {} :=
  compile_expand rfl (forall_contains_nested rfl rfl rfl fun _ => rfl)
    (forall_contains_nested (by decide) (by decide) (by decide) fun _ => List.nodup_nil)
    orderly_nested [] {}

/-- A schema whose branches both have a branch of their own. -/
def twofold : Schema where
  allOf := some [
    { allOf := some [record [("a", .boolean)]] }, { allOf := some [record [("b", .boolean)]] }]

/-- The names of the fixed properties of an object. -/
def fixedNames : Expression → List String
  | .object entries => entries.filterMap fun e =>
      match e.1 with
      | .fixed name => some name
      | .generated _ => none
  | _ => []

/-- Compiled as it is, the schema has lost the first of its two properties. -/
theorem compile_expand_twofold_ne :
    let c : Compiler := ⟨⟨"/labels", .get, 5, false, false, []⟩, ⟨fun _ => none⟩, 2024⟩
    fixedNames (c.compile (some twofold) {}).expression = ["b"] ∧
      fixedNames (c.compile (some (expand [] twofold).value) {}).expression = ["a", "b"] ∧
      (c.compile (some (expand [] twofold).value) {}).expression ≠
        (c.compile (some twofold) {}).expression := by
  intro c
  have hlost : fixedNames (c.compile (some twofold) {}).expression = ["b"] := by
    decide +kernel
  have hboth : fixedNames (c.compile (some (expand [] twofold).value) {}).expression =
      ["a", "b"] := by
    decide +kernel
  refine ⟨hlost, hboth, fun heq => ?_⟩
  rw [heq, hlost] at hboth
  simp at hboth

end Compiler

end MockApi
