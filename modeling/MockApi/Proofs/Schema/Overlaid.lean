import MockApi.Proofs.Schema.MergeLaws

/-! # Layers of schemas, keyword by keyword

What a list of schemas merges to, told without merging one at a time: for each keyword, what its
values in all the layers make. Flattening a node is the case of its branches under its own part.
-/

namespace MockApi

open Entries

/-- The value of the last layer that has one. -/
def lastOf {α β : Type} (keyword : α → Option β) (layers : List α) : Option β :=
  (layers.filterMap keyword).getLast?

theorem lastOf_concat {α β : Type} (keyword : α → Option β) (layers : List α) (t : α) :
    lastOf keyword (layers ++ [t]) = (keyword t).or (lastOf keyword layers) := by
  unfold lastOf
  cases h : keyword t <;> simp [h]

/-- Keywords without sub-schemas: each one from the last layer that has it. -/
def Keywords.overlaid (layers : List Keywords) : Keywords where
  type := lastOf type layers
  enum := lastOf enum layers
  format := lastOf format layers
  pattern := lastOf pattern layers
  minimum := lastOf minimum layers
  maximum := lastOf maximum layers
  exclusiveMinimum := lastOf exclusiveMinimum layers
  exclusiveMaximum := lastOf exclusiveMaximum layers
  multipleOf := lastOf multipleOf layers
  minLength := lastOf minLength layers
  maxLength := lastOf maxLength layers
  nullable := layers.any nullable
  exampleValue := lastOf exampleValue layers

theorem Keywords.overlaid_concat (layers : List Keywords) (k : Keywords) :
    overlaid (layers ++ [k]) = (overlaid layers).overlay k := by
  simp [overlaid, overlay, lastOf_concat]

namespace Schema

/-- Schemas merged from left to right; none of no schemas. -/
def mergedInOrder? : List Schema → Option Schema
  | [] => none
  | first :: rest => some (rest.foldl merge first)

/-- What undeclared properties are under two layers: described ones merge, and anything else is
replaced. -/
def laidOver : Option (Additional Schema) → Additional Schema → Additional Schema
  | some (.schema below), .schema above => .schema (merge below above)
  | _, above => above

/-- Layers of schemas as one schema, keyword by keyword. -/
def overlaid (layers : List Schema) : Schema where
  reference := lastOf reference layers
  circular := layers.any circular
  keywords := .overlaid (layers.map keywords)
  properties :=
    if layers.any (·.properties.isSome) then
      some (gathered mergedInOrder? (layers.flatMap (·.properties.getD [])))
    else none
  items := mergedInOrder? (layers.filterMap items)
  additional :=
    (layers.filterMap additional).foldl (fun below above => some (laidOver below above)) none
  allOf := lastOf allOf layers
  oneOf := lastOf oneOf layers
  anyOf := lastOf anyOf layers

theorem foldl_mergeOver (schemas : List Schema) :
    schemas.foldl (fun below above => some (mergeOver below above)) none =
      mergedInOrder? schemas := by
  have hsome : ∀ (rest : List Schema) (first : Schema),
      rest.foldl (fun below above => some (mergeOver below above)) (some first) =
        some (rest.foldl merge first) := by
    intro rest
    induction rest with
    | nil => exact fun _ => rfl
    | cons s rest ih => exact fun first => ih (merge first s)
  cases schemas with
  | nil => rfl
  | cons first rest => exact hsome rest first

theorem mergedInOrder?_concat (schemas : List Schema) (s : Schema) :
    mergedInOrder? (schemas ++ [s]) = some (mergeOver (mergedInOrder? schemas) s) := by
  rw [← foldl_mergeOver, ← foldl_mergeOver, List.foldl_append]
  rfl

/-- Properties merged one after another into none keep the place of their name. -/
theorem mergeEntries_nil_eq_gathered (entries : List (String × Schema)) :
    mergeEntries [] entries = gathered mergedInOrder? entries := by
  rw [mergeEntries_eq_foldl, foldl_alter_eq_gathered]
  exact congrArg (gathered · entries) (funext foldl_mergeOver)

theorem mergeEntries_gathered (lower upper : List (String × Schema)) :
    mergeEntries (gathered mergedInOrder? lower) upper =
      gathered mergedInOrder? (lower ++ upper) := by
  rw [← mergeEntries_nil_eq_gathered, ← mergeEntries_nil_eq_gathered]
  simp only [mergeEntries_eq_foldl, List.foldl_append]

theorem mergeAdditional_some (below : Option (Additional Schema)) (above : Additional Schema) :
    mergeAdditional below (some above) = some (laidOver below above) := by
  rcases above with _ | _ <;> rcases below with _ | _ | _ <;> rw [mergeAdditional] <;> rfl

/-- Without properties in any layer there are none to gather. -/
theorem getD_properties_overlaid (layers : List Schema) :
    (overlaid layers).properties.getD [] =
      gathered mergedInOrder? (layers.flatMap (·.properties.getD [])) := by
  unfold overlaid
  split
  next => rfl
  next hany =>
    have hnil : layers.flatMap (·.properties.getD []) = [] := by
      rw [List.flatMap_eq_nil_iff]
      intro t ht
      have hnone : t.properties = none :=
        Option.not_isSome_iff_eq_none.mp fun h => hany (List.any_eq_true.mpr ⟨t, ht, h⟩)
      rw [hnone, Option.getD_none]
    rw [hnil]
    rfl

theorem properties_overlaid_concat (layers : List Schema) (t : Schema) :
    (overlaid (layers ++ [t])).properties =
      mergeProperties (overlaid layers).properties t.properties := by
  cases ht : t.properties with
  | none => simp [overlaid, mergeProperties, ht]
  | some upper =>
      rw [mergeProperties, getD_properties_overlaid, mergeEntries_gathered]
      simp [overlaid, ht]

theorem items_overlaid_concat (layers : List Schema) (t : Schema) :
    (overlaid (layers ++ [t])).items = mergeItems (overlaid layers).items t.items := by
  cases ht : t.items with
  | none => simp [overlaid, mergeItems, ht]
  | some upper => simp [overlaid, mergeItems_some, mergedInOrder?_concat, ht]

theorem additional_overlaid_concat (layers : List Schema) (t : Schema) :
    (overlaid (layers ++ [t])).additional =
      mergeAdditional (overlaid layers).additional t.additional := by
  cases ht : t.additional with
  | none => simp [overlaid, mergeAdditional, ht]
  | some upper => simp [overlaid, mergeAdditional_some, ht]

/-- One more layer is merged over those below. -/
theorem overlaid_concat (layers : List Schema) (t : Schema) :
    overlaid (layers ++ [t]) = merge (overlaid layers) t := by
  have hproperties := properties_overlaid_concat layers t
  have hitems := items_overlaid_concat layers t
  have hadditional := additional_overlaid_concat layers t
  have hkeywords := Keywords.overlaid_concat (layers.map keywords) t.keywords
  cases t
  rw [merge, ← hproperties, ← hitems, ← hadditional]
  simp [overlaid, lastOf_concat, ← hkeywords]

theorem mergeAll_eq_overlaid (layers : List Schema) : mergeAll layers = overlaid layers := by
  induction layers using List.reverseRecOn with
  | nil => rfl
  | append_singleton layers t ih => rw [mergeAll_concat, overlaid_concat, ih]

/-- Flattening lays the branches of a node over one another, and then the node without `allOf` over
them. -/
theorem flattenAllOf_eq_overlaid (s : Schema) :
    s.flattenAllOf = overlaid (s.allOf.getD [] ++ [s.ownPart]) :=
  mergeAll_eq_overlaid _

end Schema

end MockApi
