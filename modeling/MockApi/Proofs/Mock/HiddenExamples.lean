import Mathlib.Data.List.Flatten
import MockApi.Proofs.Mock.Steps
import MockApi.Proofs.Reference.Closed

/-! # Examples that are passed over

Inside arrays, and where examples are not used at all, the examples of schemas are passed over. Only
an object of which nothing is described and an array without items still have theirs, since there is
nothing else to go by. All other examples can be erased without changing the outcome.
-/

namespace MockApi

namespace Schema

/-! ## Erasing examples -/

/-- Whether a schema says what the values of a type consist of. -/
def describes (s : Schema) : SchemaType → Bool
  | .object => s.properties.isSome || Compiler.isDescribed s.additional
  | .array => s.items.isSome
  | _ => true

/-- True of the nodes of type object without properties and described additional values, and of
those of type array without items. -/
def isBare (s : Schema) : Bool := s.keywords.type.any fun type => !s.describes type

/-- Takes the example off a node that is not bare. -/
def hideExample (s : Schema) : Schema :=
  if s.isBare then s else { s with keywords := { s.keywords with exampleValue := none } }

/-- Changes every node of a schema, those below a node before the node itself. -/
def mapNodes (change : Schema → Schema) (s : Schema) : Schema :=
  change (s.mapChildren fun t => if _ : t.weight < s.weight then mapNodes change t else t)
termination_by s.weight

theorem mapNodes_eq (change : Schema → Schema) (s : Schema) :
    s.mapNodes change = change (s.mapChildren (mapNodes change)) := by
  rw [mapNodes, mapChildren_congr fun t ht => dif_pos (weight_lt_of_mem_children t ht)]

/-- The schema without the examples of nodes that are not bare. -/
def withoutExamples : Schema → Schema := mapNodes hideExample

theorem withoutExamples_eq (s : Schema) :
    s.withoutExamples = (s.mapChildren withoutExamples).hideExample :=
  mapNodes_eq hideExample s

/-- Nodes that compiling looks at have no `allOf`; markers hide what is in and below them. -/
def Flat (s : Schema) : Prop :=
  ∀ t, Reaches (·.isMarker = false) s t → t.isMarker = false → t.allOf = none

theorem Flat.child {s t : Schema} (h : s.Flat) (hs : s.isMarker = false) (ht : t ∈ s.children) :
    t.Flat :=
  fun u hu => h u (.step hs ht hu)

theorem Closed.flat {s : Schema} (h : s.Closed) : s.Flat := by
  intro t ht hmarker
  have hopen : ∀ u : Schema, u.isMarker = false → u.circular = false := fun u hu =>
    (Bool.or_eq_false_iff.mp hu).2
  exact (h.of_sees (ht.mono hopen)).allOf_eq_none (hopen t hmarker)

end Schema

attribute [ext] Compiled

namespace Compiler

open Schema

variable {c : Compiler} {s : Schema} {site : Site}

/-! ## Erasing and compiling -/

/-- The examples of schemas are passed over: they are not used, or the node is inside an array. -/
def PassesOver (c : Compiler) (site : Site) : Prop :=
  c.context.useExample = false ∨ site.insideArray = true

theorem PassesOver.of_mem_calls {call : Schema × Site} (h : c.PassesOver site)
    (hcall : call ∈ c.calls s site) : c.PassesOver call.2 :=
  h.imp_right fun hsite => insideArray_of_mem_calls hsite hcall

theorem PassesOver.example?_eq (h : c.PassesOver site) (s : Schema) :
    c.example? s site = if c.context.useExample then site.given else none := by
  unfold example?
  rcases h with h | h
  · rw [h]
    rfl
  · rw [h, if_pos rfl, Option.or_none]

/-- Nodes that are not bare say what their values consist of, also where the type is inferred. -/
theorem describes_typeOf (h : s.isBare = false) : s.describes (typeOf s) = true := by
  unfold isBare at h
  unfold typeOf
  cases hdeclared : s.keywords.type with
  | some type => simpa [hdeclared] using h
  | none =>
      rw [Option.getD_none]
      split_ifs with hobject harray
      · exact hobject
      · exact harray
      · rfl
      · rfl

theorem planOfType_hideExample (s : Schema) (key : Option String) :
    c.planOfType s.hideExample key = c.planOfType s key := by
  cases hbare : s.isBare with
  | true => rw [hideExample, if_pos hbare]
  | false =>
      rw [hideExample, hbare, if_neg Bool.false_ne_true]
      -- the type is told by other keywords
      have hsame : typeOf { s with keywords := { s.keywords with exampleValue := none } } =
        typeOf s := rfl
      unfold planOfType
      rw [hsame]
      have hdescribes := describes_typeOf hbare
      cases htype : typeOf s with
      | object =>
          rw [htype, describes] at hdescribes
          simp only [bareExample, hdescribes, if_true]
      | array =>
          rw [htype, describes] at hdescribes
          simp only [bareExample, hdescribes, if_true]
      | _ => rfl

theorem PassesOver.ownExpression?_hideExample (h : c.PassesOver site) (s : Schema) :
    c.ownExpression? s.hideExample site = c.ownExpression? s site := by
  unfold ownExpression?
  rw [h.example?_eq, h.example?_eq]
  unfold hideExample
  split <;> rfl

/-- What is left of a node does not depend on an example that is passed over, unless the node is
bare. -/
theorem PassesOver.plan_hideExample (h : c.PassesOver site) (s : Schema) (hallOf : s.allOf = none) :
    c.plan s.hideExample site = c.plan s site := by
  have hallOf' : s.hideExample.allOf = s.allOf := by
    unfold hideExample
    split <;> rfl
  have halternatives : s.hideExample.alternatives = s.alternatives := by
    unfold hideExample
    split <;> rfl
  rw [plan, plan, h.ownExpression?_hideExample, planOfType_hideExample, halternatives, hallOf',
    hallOf]
  rfl

theorem plan_of_isMarker (h : s.isMarker = true) : c.plan s site = .settled .null [] := by
  rw [plan, ownExpression?, if_pos h]

/-- The same is left of a node with and without examples that are passed over. -/
theorem PassesOver.plan_withoutExamples (h : c.PassesOver site)
    (hallOf : s.isMarker = false → s.allOf = none) :
    c.plan s.withoutExamples site = (c.plan s site).map withoutExamples := by
  rw [withoutExamples_eq]
  cases hmarker : s.isMarker with
  | true =>
      have hmarker' : (s.mapChildren withoutExamples).hideExample.isMarker = true := by
        unfold hideExample
        split <;> exact hmarker
      rw [plan_of_isMarker hmarker, plan_of_isMarker hmarker']
      rfl
  | false =>
      have hmapped : (s.mapChildren withoutExamples).allOf = none := by
        rw [mapChildren, hallOf hmarker, Option.map_none]
      rw [h.plan_hideExample _ hmapped, plan_mapChildren withoutExamples (hallOf hmarker)]

theorem isMarker_eq_false_of_mem_calls {call : Schema × Site} (h : call ∈ c.calls s site) :
    s.isMarker = false := by
  by_contra hmarker
  rw [calls, plan_of_isMarker (by simpa using hmarker)] at h
  cases h

theorem Flat.of_mem_calls {call : Schema × Site} (h : s.Flat) (hcall : call ∈ c.calls s site) :
    call.1.Flat := by
  have hmarker := isMarker_eq_false_of_mem_calls hcall
  exact h.child hmarker (mem_children_of_mem_calls (h s (.refl s) hmarker) hcall)

theorem PassesOver.expression_withoutExamples (hsite : c.PassesOver site) (hflat : s.Flat) :
    (c.compile (some s.withoutExamples) site).expression =
      (c.compile (some s) site).expression := by
  induction s, site using c.callInduction with
  | step s site ih =>
      have hplan := hsite.plan_withoutExamples (hflat s (.refl s))
      rw [expression_compile, expression_compile c s, hplan, Plan.expression_map]
      refine Plan.expression_congr fun call hcall => ?_
      exact ih call hcall (hsite.of_mem_calls hcall) (Flat.of_mem_calls hflat hcall)

theorem PassesOver.warnings_withoutExamples (hsite : c.PassesOver site) (hflat : s.Flat) :
    (c.compile (some s.withoutExamples) site).warnings = (c.compile (some s) site).warnings := by
  induction s, site using c.callInduction with
  | step s site ih =>
      have hplan := hsite.plan_withoutExamples (hflat s (.refl s))
      rw [warnings_compile, warnings_compile c s, calls, hplan, Plan.warnings_map,
        Plan.calls_map, List.flatMap_map]
      refine congrArg _ (List.flatMap_congr fun call hcall => ?_)
      exact ih call hcall (hsite.of_mem_calls hcall) (Flat.of_mem_calls hflat hcall)

theorem noticed_hideExample (s : Schema) (site : Site) :
    (c.noticed s.hideExample site).Sublist (c.noticed s site) := by
  unfold hideExample
  split
  next => exact .refl _
  next =>
    unfold noticed mismatch? Schema.mismatch? isMarker
    dsimp only
    split
    next => exact .refl _
    next =>
      cases c.context.useExample with
      | false => exact .refl _
      | true => cases site.given <;> simp

/-- Fewer examples are checked, and nothing else is said of those that are. -/
theorem PassesOver.mismatches_withoutExamples (hsite : c.PassesOver site) (hflat : s.Flat) :
    (c.compile (some s.withoutExamples) site).mismatches.Sublist
      (c.compile (some s) site).mismatches := by
  induction s, site using c.callInduction with
  | step s site ih =>
      have hplan := hsite.plan_withoutExamples (hflat s (.refl s))
      have hnoticed := c.noticed_hideExample (s.mapChildren withoutExamples) site
      rw [← withoutExamples_eq] at hnoticed
      rw [mismatches_compile, mismatches_compile c s, calls, hplan, Plan.calls_map,
        List.flatMap_map]
      refine .append hnoticed (.flatMap_right _ fun call hcall => ?_)
      exact ih call hcall (hsite.of_mem_calls hcall) (Flat.of_mem_calls hflat hcall)

/-- Examples that are passed over do not matter: inside arrays, the schema without examples has the
expression and the warnings of the schema, and no mismatch that the schema does not have. Where
examples are not used all that comes of it is the same, inside arrays or not. Only bare nodes keep
their examples. -/
theorem compile_withoutExamples {s : Schema} (hflat : s.Flat) (c : Compiler) :
    (∀ site, site.insideArray = true →
      (c.compile (some s.withoutExamples) site).expression = (c.compile (some s) site).expression ∧
      (c.compile (some s.withoutExamples) site).warnings = (c.compile (some s) site).warnings ∧
      (c.compile (some s.withoutExamples) site).mismatches.Sublist
        (c.compile (some s) site).mismatches) ∧
    (c.context.useExample = false → ∀ site,
      c.compile (some s.withoutExamples) site = c.compile (some s) site) := by
  constructor
  · intro site hinside
    have hsite : c.PassesOver site := .inr hinside
    exact ⟨hsite.expression_withoutExamples hflat, hsite.warnings_withoutExamples hflat,
      hsite.mismatches_withoutExamples hflat⟩
  · intro hexample site
    have hsite : c.PassesOver site := .inl hexample
    refine Compiled.ext (hsite.expression_withoutExamples hflat) ?_
      (hsite.warnings_withoutExamples hflat)
    rw [mismatches_eq_nil hexample, mismatches_eq_nil hexample]

/-- A booking, with an example for its seat and one for its notes, of which nothing is described. -/
def booking : Schema :=
  { keywords := { type := some .object }
    properties := some
      [("seat", { keywords := { type := some .string, exampleValue := some (.string "A1") } }),
        ("notes", { keywords := { type := some .object, exampleValue := some (.object []) } })] }

/-- Among other bookings the seat is made up, and the example for the notes is kept. -/
theorem compile_withoutExamples_booking :
    let c : Compiler := ⟨⟨"/bookings", .get, 5, true, false, []⟩, ⟨fun _ => none⟩, 2024⟩
    let s := (Reference.expand [] booking).value
    s.Flat ∧ (c.compile (some s.withoutExamples) { insideArray := true }).expression =
      .object [(.fixed "seat", .call .words), (.fixed "notes", .literal (.object []))] := by
  intro c s
  have hflat : s.Flat := (Reference.closed_expand [] booking).flat
  obtain ⟨hinside, -⟩ := compile_withoutExamples hflat c
  obtain ⟨hexpression, -⟩ := hinside { insideArray := true } rfl
  exact ⟨hflat, hexpression.trans rfl⟩

end Compiler

end MockApi
