import MockApi.Proofs.Mock.Compile
import MockApi.Proofs.Mock.Weight

/-! # What is left to compile of a node

A node is compiled in one step. What it is decides which nodes are compiled next and for what, and
an expression is put together from theirs. What was noticed about the node itself comes before what
is noticed about them, in the order in which they are compiled.
-/

namespace MockApi

namespace Schema

theorem branches?_map (list : Option (List Schema)) (f : Schema → Schema) :
    branches? (list.map fun branches => branches.map f) =
      (branches? list).map fun branches => branches.map f := by
  match list with
  | none | some [] | some (_ :: _) => rfl

theorem alternatives_mapChildren (f : Schema → Schema) (s : Schema) :
    (s.mapChildren f).alternatives = s.alternatives.map fun branches => branches.map f := by
  rw [alternatives, alternatives, Option.map_or, ← branches?_map, ← branches?_map]
  rfl

end Schema

namespace Compiler

open Schema

/-! ## One step -/

/-- What is left to compile of a node. -/
inductive Plan where
  /-- Nothing: the node has its expression. -/
  | settled (expression : Expression) (warnings : List PatternWarning)
  | flattened (s : Schema)
  | choice (branches : List Schema)
  | object (properties : List (String × Schema)) (additional : Option (Additional Schema))
  | copies (items : Option Schema)

namespace Plan

/-- The nodes that are compiled next, in order, with what they are compiled for. -/
@[simp] def calls (site : Site) : Plan → List (Schema × Site)
  | settled _ _ => []
  | flattened s => [(s, site)]
  | choice branches => branches.map fun s => (s, ⟨none, site.key, site.insideArray⟩)
  | object properties additional =>
    (properties.map fun e => (e.2, ⟨none, some e.1, site.insideArray⟩)) ++
      (described additional).map fun s => (s, ⟨none, none, site.insideArray⟩)
  | copies items => items.toList.map fun s => (s, ⟨none, site.key, true⟩)

/-- The entry for undeclared properties, by what comes of their description. -/
def extra (below : Schema → Expression) :
    Option (Additional Schema) → List (EntryKey Expression × Expression)
  | some (.schema s) => [(.generated (.call .words), below s)]
  | some (.flag true) => [openEntry]
  | some (.flag false) | none => []

/-- The expression that is put together from those of the nodes below. -/
@[simp] def expression (arrayLength : Nat) (site : Site) (below : Schema → Site → Expression) :
    Plan → Expression
  | settled e _ => e
  | flattened s => below s site
  | choice branches => .choice (branches.map fun s => below s ⟨none, site.key, site.insideArray⟩)
  | object properties additional =>
    .object ((properties.map fun e =>
        (.fixed e.1, below e.2 ⟨none, some e.1, site.insideArray⟩)) ++
      extra (fun s => below s ⟨none, none, site.insideArray⟩) additional)
  | copies items =>
    .copies arrayLength ((items.map fun s => below s ⟨none, site.key, true⟩).getD .null)

/-- The warnings about the node itself. -/
@[simp] def warnings : Plan → List PatternWarning
  | settled _ ws => ws
  | _ => []

theorem extra_congr {below below' : Schema → Expression} {additional : Option (Additional Schema)}
    (h : ∀ s ∈ described additional, below s = below' s) :
    extra below additional = extra below' additional := by
  match additional with
  | some (.schema s) => rw [extra, extra, h s List.mem_cons_self]
  | some (.flag true) | some (.flag false) | none => rfl

theorem expression_congr {arrayLength : Nat} {site : Site}
    {below below' : Schema → Site → Expression} {plan : Plan}
    (h : ∀ call ∈ plan.calls site, below call.1 call.2 = below' call.1 call.2) :
    plan.expression arrayLength site below = plan.expression arrayLength site below' := by
  cases plan with
  | settled e ws => rfl
  | flattened s => exact h _ List.mem_cons_self
  | choice branches =>
      rw [calls, List.forall_mem_map] at h
      rw [expression, expression, List.map_congr_left h]
  | object properties additional =>
      rw [calls, List.forall_mem_append, List.forall_mem_map, List.forall_mem_map] at h
      obtain ⟨hproperties, hadditional⟩ := h
      rw [expression, expression, extra_congr hadditional]
      congr 2
      exact List.map_congr_left fun e he => by rw [hproperties e he]
  | copies items =>
      rw [calls, List.forall_mem_map] at h
      cases items with
      | none => rfl
      | some s =>
          rw [expression, expression, Option.map_some, Option.map_some, h s (by simp)]

/-- Changes the nodes that are compiled next. -/
def map (f : Schema → Schema) : Plan → Plan
  | settled e ws => settled e ws
  | flattened s => flattened (f s)
  | choice branches => choice (branches.map f)
  | object properties additional =>
    object (properties.map fun e => (e.1, f e.2)) (additional.map fun
      | .flag allowed => .flag allowed
      | .schema t => .schema (f t))
  | copies items => copies (items.map f)

variable (f : Schema → Schema) (site : Site) (plan : Plan)

theorem calls_map : (plan.map f).calls site =
    (plan.calls site).map fun call => (f call.1, call.2) := by
  cases plan with
  | settled e ws => rfl
  | flattened s => rfl
  | choice branches => simp [map, Function.comp_def]
  | object properties additional =>
      rcases additional with _ | _ | _ <;> simp [map, described, Function.comp_def]
  | copies items => cases items <;> simp [map]

theorem expression_map (arrayLength : Nat) (below : Schema → Site → Expression) :
    (plan.map f).expression arrayLength site below =
      plan.expression arrayLength site fun t => below (f t) := by
  cases plan with
  | settled e ws => rfl
  | flattened s => rfl
  | choice branches => simp [map, Function.comp_def]
  | object properties additional =>
      rcases additional with _ | (_ | _) | _ <;> simp [map, extra, Function.comp_def]
  | copies items => cases items <;> simp [map]

theorem warnings_map : (plan.map f).warnings = plan.warnings := by
  cases plan <;> rfl

end Plan

/-- What is left to compile of a node by its type. -/
def planOfType (c : Compiler) (s : Schema) (key : Option String) : Plan :=
  match typeOf s with
  | .string =>
    let (capability, warnings) := c.stringCapability s.keywords key
    .settled (.call capability) warnings
  | .number | .integer => .settled (.call (c.numberCapability s.keywords key)) []
  | .boolean => .settled (.call .boolean) []
  | .object =>
    match bareExample s (s.properties.isSome || isDescribed s.additional) with
    | some value => .settled (.literal value) []
    | none => .object (s.properties.getD []) s.additional
  | .array =>
    match bareExample s s.items.isSome with
    | some value => .settled (.literal value) []
    | none => .copies s.items
  | .other _ => .settled .null []

/-- The expression that a node has without its sub-schemas: that of a marker, of a rule, of an
example or of an enumeration. -/
def ownExpression? (c : Compiler) (s : Schema) (site : Site) : Option Expression :=
  if s.isMarker then some .null
  else match site.key.bind c.rule? with
    | some rule => some rule.expression
    | none => ((c.example? s site).map .literal).or (enumeration? s)

/-- What is left to compile of a node. -/
def plan (c : Compiler) (s : Schema) (site : Site) : Plan :=
  match c.ownExpression? s site with
  | some e => .settled e []
  | none =>
    if s.allOf.isSome then .flattened s.flattenAllOf
    else match s.alternatives with
      | some branches => .choice branches
      | none => c.planOfType s site.key

/-- The mismatch of the node itself. Markers and nodes with a rule are not looked at. -/
def noticed (c : Compiler) (s : Schema) (site : Site) : List Mismatch :=
  if s.isMarker || (site.key.bind c.rule?).isSome then [] else (c.mismatch? s site).toList

/-- The nodes that are compiled next, with what they are compiled for. -/
def calls (c : Compiler) (s : Schema) (site : Site) : List (Schema × Site) :=
  (c.plan s site).calls site

/-- Compiles a node when it is known what comes of the nodes below. -/
def step (c : Compiler) (s : Schema) (site : Site) (below : Schema → Site → Compiled) :
    Compiled where
  expression := (c.plan s site).expression c.context.arrayLength site fun t site =>
    (below t site).expression
  mismatches := c.noticed s site ++
    (c.calls s site).flatMap fun call => (below call.1 call.2).mismatches
  warnings := (c.plan s site).warnings ++
    (c.calls s site).flatMap fun call => (below call.1 call.2).warnings

theorem step_congr {c : Compiler} {s : Schema} {site : Site}
    {below below' : Schema → Site → Compiled}
    (h : ∀ call ∈ c.calls s site, below call.1 call.2 = below' call.1 call.2) :
    c.step s site below = c.step s site below' := by
  have hexpression : (c.plan s site).expression c.context.arrayLength site
        (fun t site => (below t site).expression) =
      (c.plan s site).expression c.context.arrayLength site
        fun t site => (below' t site).expression :=
    Plan.expression_congr fun call hcall => congrArg Compiled.expression (h call hcall)
  have hmismatches := List.flatMap_congr fun call hcall =>
    congrArg Compiled.mismatches (h call hcall)
  have hwarnings := List.flatMap_congr fun call hcall => congrArg Compiled.warnings (h call hcall)
  rw [step, step, hexpression, hmismatches, hwarnings]

variable {c : Compiler} {s : Schema} {site : Site}

/-! ## What is left, by what decides -/

theorem plan_of_own {e : Expression} (hown : c.ownExpression? s site = some e) :
    c.plan s site = .settled e [] := by
  rw [plan, hown]

theorem plan_of_allOf (hown : c.ownExpression? s site = none) (hallOf : s.allOf.isSome) :
    c.plan s site = .flattened s.flattenAllOf := by
  rw [plan, hown, if_pos hallOf]

theorem plan_of_alternatives {branches : List Schema} (hown : c.ownExpression? s site = none)
    (hallOf : s.allOf = none) (halternatives : s.alternatives = some branches) :
    c.plan s site = .choice branches := by
  rw [plan, hown, hallOf, halternatives]
  rfl

theorem plan_of_type (hown : c.ownExpression? s site = none) (hallOf : s.allOf = none)
    (halternatives : s.alternatives = none) : c.plan s site = c.planOfType s site.key := by
  rw [plan, hown, hallOf, halternatives]
  rfl

/-! ## Changing children -/

theorem isDescribed_mapChildren (f : Schema → Schema) (s : Schema) :
    isDescribed (s.mapChildren f).additional = isDescribed s.additional := by
  rcases s with ⟨_, _, _, _, _, additional, _, _, _⟩
  rcases additional with _ | _ | _ <;> rfl

theorem typeOf_mapChildren (f : Schema → Schema) (s : Schema) :
    typeOf (s.mapChildren f) = typeOf s := by
  rw [typeOf, typeOf, isDescribed_mapChildren]
  simp [mapChildren, hasNumericBound]

theorem planOfType_mapChildren (f : Schema → Schema) (s : Schema) (key : Option String) :
    c.planOfType (s.mapChildren f) key = (c.planOfType s key).map f := by
  have hproperties : (s.mapChildren f).properties.isSome = s.properties.isSome := Option.isSome_map
  have hitems : (s.mapChildren f).items.isSome = s.items.isSome := Option.isSome_map
  have hbare : bareExample (s.mapChildren f) = bareExample s := rfl
  unfold planOfType
  rw [typeOf_mapChildren, isDescribed_mapChildren, hproperties, hitems, hbare]
  cases typeOf s with
  | object =>
      dsimp only
      cases bareExample s _ with
      | some value => rfl
      | none =>
          unfold mapChildren
          cases s.properties <;> rfl
  | array =>
      dsimp only
      cases bareExample s _ <;> rfl
  | _ => rfl

theorem plan_mapChildren (f : Schema → Schema) (hallOf : s.allOf = none) :
    c.plan (s.mapChildren f) site = (c.plan s site).map f := by
  have hown : c.ownExpression? (s.mapChildren f) site = c.ownExpression? s site := rfl
  have hnone : (s.mapChildren f).allOf.isSome = s.allOf.isSome := Option.isSome_map
  rw [plan, plan, hown, hnone, hallOf, alternatives_mapChildren, planOfType_mapChildren]
  cases c.ownExpression? s site with
  | some e => rfl
  | none => cases s.alternatives <;> rfl

theorem step_mapChildren (f : Schema → Schema) (hallOf : s.allOf = none)
    (below : Schema → Site → Compiled) :
    c.step (s.mapChildren f) site below = c.step s site fun t => below (f t) := by
  have hnoticed : c.noticed (s.mapChildren f) site = c.noticed s site := rfl
  rw [step, step, calls, calls, hnoticed, plan_mapChildren f hallOf, Plan.expression_map,
    Plan.calls_map, Plan.warnings_map, List.flatMap_map, List.flatMap_map]

/-! ## Nodes that are compiled next -/

theorem mem_children_of_mem_calls_planOfType {key : Option String} {call : Schema × Site}
    (h : call ∈ (c.planOfType s key).calls site) : call.1 ∈ s.children := by
  unfold planOfType at h
  cases htype : typeOf s with
  | object =>
      simp only [htype] at h
      split at h
      next => cases h
      next =>
        rcases List.mem_append.mp h with h | h
        · obtain ⟨e, he, rfl⟩ := List.mem_map.mp h
          exact mem_children_of_property he
        · obtain ⟨t, ht, rfl⟩ := List.mem_map.mp h
          exact mem_children_of_described ht
  | array =>
      simp only [htype] at h
      split at h
      next => cases h
      next =>
        obtain ⟨t, ht, rfl⟩ := List.mem_map.mp h
        exact mem_children_of_items ht
  | _ =>
      simp only [htype] at h
      cases h

/-- A node with `allOf` is flattened, and no node below it is compiled before that. -/
theorem eq_flattenAllOf_of_mem_calls {call : Schema × Site} (hallOf : s.allOf.isSome)
    (h : call ∈ c.calls s site) : call = (s.flattenAllOf, site) := by
  unfold calls plan at h
  split at h
  next => cases h
  next =>
    rw [if_pos hallOf] at h
    exact List.mem_singleton.mp h

theorem mem_children_of_mem_calls {call : Schema × Site} (hallOf : s.allOf = none)
    (h : call ∈ c.calls s site) : call.1 ∈ s.children := by
  unfold calls plan at h
  split at h
  next => cases h
  next =>
    rw [hallOf, if_neg (by simp)] at h
    split at h
    next branches halternatives =>
      obtain ⟨t, ht, rfl⟩ := List.mem_map.mp h
      exact mem_children_of_alternatives halternatives ht
    next => exact mem_children_of_mem_calls_planOfType h

theorem weight_lt_of_mem_calls {call : Schema × Site} (h : call ∈ c.calls s site) :
    call.1.weight < s.weight := by
  cases hallOf : s.allOf with
  | none => exact weight_lt_of_mem_children _ (mem_children_of_mem_calls hallOf h)
  | some branches =>
      have hsome : s.allOf.isSome := Option.isSome_of_mem hallOf
      rw [eq_flattenAllOf_of_mem_calls hsome h]
      exact weight_flattenAllOf_lt hsome

/-- Inside arrays, whatever is compiled next is inside them too. -/
theorem insideArray_of_mem_calls {call : Schema × Site} (hsite : site.insideArray = true)
    (h : call ∈ c.calls s site) : call.2.insideArray = true := by
  unfold calls at h
  cases hplan : c.plan s site with
  | settled e ws => simp [hplan] at h
  | flattened t =>
      obtain rfl : call = (t, site) := by simpa [hplan] using h
      exact hsite
  | choice branches =>
      obtain ⟨t, -, rfl⟩ := List.mem_map.mp (hplan ▸ h)
      exact hsite
  | object properties additional =>
      rcases List.mem_append.mp (hplan ▸ h) with h | h <;> obtain ⟨_, -, rfl⟩ := List.mem_map.mp h
      · exact hsite
      · exact hsite
  | copies items =>
      obtain ⟨t, -, rfl⟩ := List.mem_map.mp (hplan ▸ h)
      rfl

/-- The first node is compiled when the second one is, each with what it is compiled for. -/
def IsCalledBy (c : Compiler) (callee caller : Schema × Site) : Prop :=
  callee ∈ c.calls caller.1 caller.2

theorem wellFounded_isCalledBy (c : Compiler) : WellFounded c.IsCalledBy :=
  Subrelation.wf (fun h => weight_lt_of_mem_calls h)
    (InvImage.wf (fun call : Schema × Site => call.1.weight) Nat.lt_wfRel.wf)

/-- What holds of a node as soon as it holds of the nodes that are compiled next holds of every
node. -/
@[elab_as_elim]
theorem callInduction (c : Compiler) {motive : Schema → Site → Prop}
    (step : ∀ s site, (∀ call ∈ c.calls s site, motive call.1 call.2) → motive s site)
    (s : Schema) (site : Site) : motive s site :=
  (wellFounded_isCalledBy c).induction (C := fun call => motive call.1 call.2) (s, site)
    fun call ih => step call.1 call.2 ih

end Compiler

end MockApi
