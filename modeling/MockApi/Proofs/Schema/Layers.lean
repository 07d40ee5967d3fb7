import MockApi.Proofs.Schema.WellFormed

/-! # Laying schemas over schemas

Merging is almost associative. It fails to be where a described additional value lies under a flag
and another described one over it: merged from the left, the flag keeps the two apart, and merged
from the right they meet.
-/

namespace MockApi

open Entries

theorem Keywords.overlay_assoc (a b c : Keywords) :
    (a.overlay b).overlay c = a.overlay (b.overlay c) := by
  simp only [overlay, Option.or_assoc, Bool.or_assoc]

theorem Keywords.empty_overlay (k : Keywords) : overlay {} k = k := by
  simp [overlay]

namespace Schema

/-- What becomes of a property when one of its name is laid over what is there. -/
def mergeOver (below : Option Schema) (above : Schema) : Schema :=
  match below with
  | some s => merge s above
  | none => above

theorem mergeEntries_eq_foldl (lower upper : List (String × Schema)) :
    mergeEntries lower upper =
      upper.foldl (fun acc x => alter x.1 (mergeOver · x.2) acc) lower := by
  induction upper generalizing lower with
  | nil => rw [mergeEntries]; rfl
  | cons x rest ih =>
      rcases x with ⟨name, s⟩
      rw [mergeEntries, List.foldl_cons, ih, alter_eq_insert]
      rfl

theorem keys_mergeEntries {lower upper : Entries Schema} (h : upper.keys.Nodup) :
    keys (mergeEntries lower upper) = lower.keys ++ upper.keys.filter (· ∉ lower.keys) := by
  rw [mergeEntries_eq_foldl]
  exact keys_foldl_alter mergeOver lower h

theorem find?_mergeEntries {lower upper : Entries Schema} (h : upper.keys.Nodup) (name : String) :
    find? (mergeEntries lower upper) name =
      match upper.find? name with
      | some s => some (mergeOver (lower.find? name) s)
      | none => lower.find? name := by
  have hfold : mergeEntries lower upper = _ := mergeEntries_eq_foldl lower upper
  rw [hfold, find?_foldl_alter mergeOver lower h name]
  cases upper.find? name <;> rfl

/-! ## The empty schema below -/

theorem mergeEntries_nil {entries : Entries Schema} (h : entries.keys.Nodup) :
    mergeEntries [] entries = entries := by
  have hkeys : keys (mergeEntries [] entries) = entries.keys := by
    rw [keys_mergeEntries h]
    simp [keys]
  refine ext_find? hkeys (hkeys ▸ h) fun name => ?_
  rw [find?_mergeEntries h]
  cases hfound : entries.find? name <;> rfl

theorem empty_merge {s : Schema} (h : s.propertyNames.Nodup) : merge empty s = s := by
  rcases s with ⟨reference, circular, keywords, properties, items, additional, allOf, oneOf, anyOf⟩
  have hproperties : mergeProperties none properties = properties := by
    cases properties with
    | none => rw [mergeProperties]
    | some entries =>
        rw [mergeProperties]
        exact congrArg some (mergeEntries_nil h)
  have hitems : mergeItems none items = items := by
    cases items <;> rw [mergeItems]
  have hadditional : mergeAdditional none additional = additional := by
    rcases additional with _ | _ | _ <;> rw [mergeAdditional]
  rw [merge]
  simp [empty, hproperties, hitems, hadditional, Keywords.empty_overlay]

/-! ## Three layers -/

theorem mergeEntries_assoc {a b c : Entries Schema} (ha : a.keys.Nodup) (hb : b.keys.Nodup)
    (hc : c.keys.Nodup)
    (h : ∀ name x y z, a.find? name = some x → b.find? name = some y → c.find? name = some z →
      merge (merge x y) z = merge x (merge y z)) :
    mergeEntries (mergeEntries a b) c = mergeEntries a (mergeEntries b c) := by
  have hbc : (keys (mergeEntries b c)).Nodup := nodup_keys_mergeEntries hb
  refine ext_find? ?_ (nodup_keys_mergeEntries (nodup_keys_mergeEntries ha)) fun name => ?_
  · rw [keys_mergeEntries hc, keys_mergeEntries hb, keys_mergeEntries hbc, keys_mergeEntries hc,
      List.filter_append, List.filter_filter, List.append_assoc]
    refine congrArg _ (congrArg _ (List.filter_congr fun key _ => ?_))
    by_cases hkey : key ∈ a.keys <;> simp [hkey]
  · rw [find?_mergeEntries hc, find?_mergeEntries hb, find?_mergeEntries hbc, find?_mergeEntries hc]
    cases hz : c.find? name with
    | none => cases b.find? name <;> rfl
    | some z =>
        cases hy : b.find? name with
        | none => rfl
        | some y =>
            cases hx : a.find? name with
            | none => rfl
            | some x => exact congrArg some (h name x y z hx hy hz)

/-- No node of the schema has a flag for undeclared properties. -/
def Unflagged (s : Schema) : Prop :=
  ∀ t, s.Contains t → ∀ allowed, t.additional ≠ some (.flag allowed)

/-- No node of the schema has a description of undeclared properties. -/
def Undescribed (s : Schema) : Prop := ∀ t, s.Contains t → described t.additional = []

theorem persistent_unflagged :
    Persistent fun s => ∀ allowed, s.additional ≠ some (.flag allowed) where
  empty _ := by simp [empty]
  merge a b ha hb allowed := by
    have ha := ha allowed
    have hb := hb allowed
    rw [merge_additional]
    rcases hupper : b.additional with _ | _ | _ <;> rcases hlower : a.additional with _ | _ | _ <;>
      simp_all [mergeAdditional]
  ownPart _ hs := hs
  mapChildren f s hs allowed := by
    unfold mapChildren
    rcases hadditional : s.additional with _ | _ | _
    · simp
    · exact (hs _ hadditional).elim
    · simp

theorem persistent_undescribed : Persistent fun s => described s.additional = [] where
  empty := rfl
  merge a b ha hb := by
    rw [merge_additional]
    rcases hupper : b.additional with _ | _ | _ <;> rcases hlower : a.additional with _ | _ | _ <;>
      simp_all [mergeAdditional, described]
  ownPart _ hs := hs
  mapChildren f s hs := by
    unfold mapChildren
    rcases hadditional : s.additional with _ | _ | _ <;> simp_all [described]

/-- Three layers of schemas in which no flag for undeclared properties keeps two descriptions
apart. -/
def Joined (a b c : Schema) : Prop := a.Undescribed ∨ b.Unflagged ∨ c.Undescribed

theorem Joined.of_mem_children {a b c x y z : Schema} (h : Joined a b c) (hx : x ∈ a.children)
    (hy : y ∈ b.children) (hz : z ∈ c.children) : Joined x y z := by
  obtain h | h | h := h
  · exact Or.inl fun t ht => h t (.step trivial hx ht)
  · exact Or.inr (Or.inl fun t ht => h t (.step trivial hy ht))
  · exact Or.inr (Or.inr fun t ht => h t (.step trivial hz ht))

theorem Joined.not_apart {a b c x z : Schema} {allowed : Bool} (h : Joined a b c)
    (ha : a.additional = some (.schema x)) (hb : b.additional = some (.flag allowed))
    (hc : c.additional = some (.schema z)) : False := by
  obtain h | h | h := h
  · simpa [ha, described] using h a (.refl a)
  · exact h b (.refl b) allowed hb
  · simpa [hc, described] using h c (.refl c)

theorem mergeAdditional_assoc {a b c : Schema} (hjoined : Joined a b c)
    (h : ∀ x ∈ described a.additional, ∀ y ∈ described b.additional, ∀ z ∈ described c.additional,
      merge (merge x y) z = merge x (merge y z)) :
    mergeAdditional (mergeAdditional a.additional b.additional) c.additional =
      mergeAdditional a.additional (mergeAdditional b.additional c.additional) := by
  rcases hc : c.additional with _ | ⟨_⟩ | ⟨z⟩
  · simp only [mergeAdditional]
  · simp only [mergeAdditional]
  · rcases hb : b.additional with _ | ⟨_⟩ | ⟨y⟩ <;>
      rcases ha : a.additional with _ | ⟨_⟩ | ⟨x⟩ <;> try simp only [mergeAdditional]
    next => exact (hjoined.not_apart ha hb hc).elim
    next =>
      rw [h x (by simp [ha, described]) y (by simp [hb, described]) z (by simp [hc, described])]

theorem mergeItems_assoc {a b c : Option Schema}
    (h : ∀ x ∈ a.toList, ∀ y ∈ b.toList, ∀ z ∈ c.toList,
      merge (merge x y) z = merge x (merge y z)) :
    mergeItems (mergeItems a b) c = mergeItems a (mergeItems b c) := by
  rcases c with _ | z <;> rcases b with _ | y <;> rcases a with _ | x <;>
    try simp only [mergeItems]
  rw [h x (by simp) y (by simp) z (by simp)]

theorem mergeProperties_assoc {a b c : Option (List (String × Schema))}
    (ha : (keys (a.getD [])).Nodup) (hb : (keys (b.getD [])).Nodup) (hc : (keys (c.getD [])).Nodup)
    (h : ∀ x ∈ a.getD [], ∀ y ∈ b.getD [], ∀ z ∈ c.getD [],
      merge (merge x.2 y.2) z.2 = merge x.2 (merge y.2 z.2)) :
    mergeProperties (mergeProperties a b) c = mergeProperties a (mergeProperties b c) := by
  cases c with
  | none => simp only [mergeProperties]
  | some c =>
      cases b with
      | none =>
          have hc' : (keys c).Nodup := hc
          simp only [mergeProperties, Option.getD_none, mergeEntries_nil hc']
      | some b =>
          simp only [mergeProperties, Option.getD_some]
          refine congrArg some (mergeEntries_assoc ha hb hc fun name x y z hx hy hz => ?_)
          exact h _ (mem_of_find?_eq_some hx) _ (mem_of_find?_eq_some hy) _
            (mem_of_find?_eq_some hz)

/-- Merging is associative where no flag keeps two descriptions apart. -/
theorem merge_assoc {a b c : Schema} (ha : a.WellFormed) (hb : b.WellFormed) (hc : c.WellFormed)
    (hjoined : Joined a b c) : merge (merge a b) c = merge a (merge b c) := by
  induction c using childInduction generalizing a b with
  | step c ih =>
      rw [wellFormed_iff] at ha hb hc
      have hchildren : ∀ x ∈ a.children, ∀ y ∈ b.children, ∀ z ∈ c.children,
          merge (merge x y) z = merge x (merge y z) := fun x hx y hy z hz =>
        ih z hz (ha.2 x hx) (hb.2 y hy) (hc.2 z hz) (hjoined.of_mem_children hx hy hz)
      have hproperties := mergeProperties_assoc ha.1 hb.1 hc.1 fun x hx y hy z hz =>
        hchildren _ (mem_children_of_property hx) _ (mem_children_of_property hy) _
          (mem_children_of_property hz)
      have hitems := mergeItems_assoc fun x hx y hy z hz =>
        hchildren x (mem_children_of_items hx) y (mem_children_of_items hy) z
          (mem_children_of_items hz)
      have hadditional := mergeAdditional_assoc hjoined fun x hx y hy z hz =>
        hchildren x (mem_children_of_described hx) y (mem_children_of_described hy) z
          (mem_children_of_described hz)
      cases a
      cases b
      cases c
      simp only [merge, Option.or_assoc, Bool.or_assoc, Keywords.overlay_assoc]
      rw [hproperties, hitems, hadditional]

/-! ## Changing the children of both layers -/

/-- The pairs of children that merging two nodes merges. -/
inductive Meets (a b : Schema) : Schema → Schema → Prop
  | property {name : String} {x y : Schema} (hx : (name, x) ∈ a.properties.getD [])
      (hy : (name, y) ∈ b.properties.getD []) : Meets a b x y
  | items {x y : Schema} (hx : x ∈ a.items.toList) (hy : y ∈ b.items.toList) : Meets a b x y
  | additional {x y : Schema} (hx : x ∈ described a.additional) (hy : y ∈ described b.additional) :
      Meets a b x y

theorem Meets.left_mem {a b x y : Schema} (h : Meets a b x y) : x ∈ a.children := by
  cases h with
  | property hx _ => exact mem_children_of_property hx
  | items hx _ => exact mem_children_of_items hx
  | additional hx _ => exact mem_children_of_described hx

theorem Meets.right_mem {a b x y : Schema} (h : Meets a b x y) : y ∈ b.children := by
  cases h with
  | property _ hy => exact mem_children_of_property hy
  | items _ hy => exact mem_children_of_items hy
  | additional _ hy => exact mem_children_of_described hy

theorem Meets.of_ownPart {a b x y : Schema} (h : Meets a.ownPart b x y) : Meets a b x y := by
  cases h with
  | property hx hy => exact .property hx hy
  | items hx hy => exact .items hx hy
  | additional hx hy => exact .additional hx hy

theorem ownPart_merge {a b : Schema} (hb : b.allOf = none) :
    (merge a b).ownPart = merge a.ownPart b := by
  cases b
  obtain rfl := hb
  simp [merge, ownPart]

variable {f : Schema → Schema}

theorem mapValues_mergeEntries {lower upper : Entries Schema} (hlower : lower.keys.Nodup)
    (hupper : upper.keys.Nodup)
    (h : ∀ name x y, lower.find? name = some x → upper.find? name = some y →
      f (merge x y) = merge (f x) (f y)) :
    mapValues f (mergeEntries lower upper) =
      mergeEntries (mapValues f lower) (mapValues f upper) := by
  have hmapped : (keys (mapValues f upper)).Nodup := by
    rwa [keys_mapValues]
  have hkeys : keys (mapValues f (mergeEntries lower upper)) =
      keys (mergeEntries (mapValues f lower) (mapValues f upper)) := by
    rw [keys_mapValues, keys_mergeEntries hupper, keys_mergeEntries hmapped, keys_mapValues,
      keys_mapValues]
  refine ext_find? hkeys ?_ fun name => ?_
  · rw [keys_mapValues]
    exact nodup_keys_mergeEntries hlower
  · rw [find?_mapValues, find?_mergeEntries hupper, find?_mergeEntries hmapped, find?_mapValues,
      find?_mapValues]
    cases hy : upper.find? name with
    | none => rfl
    | some y =>
        cases hx : lower.find? name with
        | none => rfl
        | some x => exact congrArg some (h name x y hx hy)

theorem map_mergeProperties {a b : Schema} (ha : a.propertyNames.Nodup)
    (hb : b.propertyNames.Nodup) (h : ∀ x y, Meets a b x y → f (merge x y) = merge (f x) (f y)) :
    (mergeProperties a.properties b.properties).map (mapValues f) =
      mergeProperties (a.properties.map (mapValues f)) (b.properties.map (mapValues f)) := by
  cases hupper : b.properties with
  | none => simp only [mergeProperties, Option.map_none]
  | some upper =>
      have hkeys : keys upper = b.propertyNames := by
        rw [propertyNames, hupper]
        rfl
      simp only [mergeProperties, Option.map_some]
      rw [mapValues_mergeEntries ha (hkeys ▸ hb) fun name x y hx hy => ?_]
      · cases a.properties <;> rfl
      · refine h x y (.property (mem_of_find?_eq_some hx) ?_)
        simpa [hupper] using mem_of_find?_eq_some hy

theorem map_mergeItems {a b : Schema}
    (h : ∀ x y, Meets a b x y → f (merge x y) = merge (f x) (f y)) :
    (mergeItems a.items b.items).map f = mergeItems (a.items.map f) (b.items.map f) := by
  rcases hb : b.items with _ | y <;> rcases ha : a.items with _ | x <;>
    simp only [mergeItems, Option.map_none, Option.map_some]
  rw [h x y (.items (by simp [ha]) (by simp [hb]))]

/-- Changes the description of undeclared properties. -/
def mapAdditional (f : Schema → Schema) : Additional Schema → Additional Schema
  | .flag allowed => .flag allowed
  | .schema t => .schema (f t)

theorem map_mergeAdditional {a b : Schema}
    (h : ∀ x y, Meets a b x y → f (merge x y) = merge (f x) (f y)) :
    (mergeAdditional a.additional b.additional).map (mapAdditional f) =
      mergeAdditional (a.additional.map (mapAdditional f))
        (b.additional.map (mapAdditional f)) := by
  rcases hb : b.additional with _ | ⟨_⟩ | ⟨y⟩ <;> rcases ha : a.additional with _ | ⟨_⟩ | ⟨x⟩ <;>
    simp only [mergeAdditional, Option.map_none, Option.map_some, mapAdditional]
  rw [h x y (.additional (by simp [ha, described]) (by simp [hb, described]))]

theorem mapChildren_merge {a b : Schema} (ha : a.propertyNames.Nodup) (hb : b.propertyNames.Nodup)
    (h : ∀ x y, Meets a b x y → f (merge x y) = merge (f x) (f y)) :
    (merge a b).mapChildren f = merge (a.mapChildren f) (b.mapChildren f) := by
  have hproperties := map_mergeProperties ha hb h
  have hitems := map_mergeItems h
  have hadditional := map_mergeAdditional h
  have hmap : ∀ s : Schema, s.mapChildren f =
      { s with
        properties := s.properties.map (mapValues f)
        items := s.items.map f
        additional := s.additional.map (mapAdditional f)
        oneOf := s.oneOf.map (List.map f)
        anyOf := s.anyOf.map (List.map f)
        allOf := s.allOf.map (List.map f) } := by
    intro s
    rcases s with ⟨_, _, _, _, _, additional, _, _, _⟩
    rcases additional with _ | _ | _ <;> rfl
  cases a
  cases b
  simp only [merge, hmap, Option.map_or]
  rw [hproperties, hitems, hadditional]

end Schema

end MockApi
