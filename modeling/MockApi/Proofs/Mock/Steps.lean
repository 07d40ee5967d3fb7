import MockApi.Proofs.Mock.Compile
import MockApi.Proofs.Mock.Plan

/-! # Compiling takes steps

What a node compiles to is one step from what the nodes that are compiled next compile to. How often
nodes are flattened on the way down is bounded, but the bound is never met.

Where neither rules nor examples apply, the expression of a node without `allOf` follows from its
own keywords and from the expressions of its children: an enumeration, then alternatives, then the
type.
-/

namespace MockApi.Compiler

open Schema

variable {c : Compiler} {s : Schema} {site : Site}

/-! ## One step -/

theorem decided?_eq (c : Compiler) (s : Schema) (site : Site) :
    c.decided? s site = (c.ownExpression? s site).map fun e => ⟨e, c.noticed s site, []⟩ := by
  unfold decided? ownExpression? noticed
  cases s.isMarker with
  | true => rfl
  | false =>
      cases site.key.bind c.rule? with
      | some rule => rfl
      | none => cases c.example? s site <;> simp

theorem noticed_of_undecided (h : c.ownExpression? s site = none) :
    c.noticed s site = (c.mismatch? s site).toList := by
  unfold ownExpression? at h
  unfold noticed
  cases hmarker : s.isMarker <;> cases hrule : site.key.bind c.rule? <;>
    simp [hmarker, hrule] at h ⊢

theorem step_of_settled {below : Schema → Site → Compiled} {e : Expression}
    {ws : List PatternWarning} (h : c.plan s site = .settled e ws) :
    c.step s site below = ⟨e, c.noticed s site, ws⟩ := by
  rw [step, calls, h]
  simp

variable {again : Schema → Site → Compiled}

theorem compileAdditional_eq (insideArray : Bool) (additional : Option (Additional Schema)) :
    c.compileAdditional again insideArray additional =
      (Plan.extra (c.expressionFor again none insideArray) additional,
        (described additional).flatMap fun t =>
          (c.compileWith again t ⟨none, none, insideArray⟩).mismatches,
        (described additional).flatMap fun t =>
          (c.compileWith again t ⟨none, none, insideArray⟩).warnings) := by
  match additional with
  | some (.schema t) =>
      rw [compileAdditional]
      simp only [described, List.flatMap_singleton]
      rfl
  | some (.flag true) | some (.flag false) | none =>
      rw [compileAdditional]
      rfl

theorem compileWith_eq_step_of_own {e : Expression} {below : Schema → Site → Compiled}
    (h : c.ownExpression? s site = some e) : c.compileWith again s site = c.step s site below := by
  have hdecided : c.decided? s site = some ⟨e, c.noticed s site, []⟩ := by
    rw [decided?_eq, h, Option.map_some]
  rw [compileWith_of_decided? hdecided, step_of_settled (plan_of_own h)]

theorem compileWith_eq_step_of_allOf (hallOf : s.allOf.isSome) :
    c.compileWith again s site = c.step s site again := by
  cases hown : c.ownExpression? s site with
  | some e => exact compileWith_eq_step_of_own hown
  | none =>
      rw [step, calls, plan_of_allOf hown hallOf, noticed_of_undecided hown]
      cases s
      rw [compileWith, decided?_eq, hown, Option.map_none, if_pos hallOf]
      simp

theorem compileWith_eq_step_of_alternatives {branches : List Schema}
    (hown : c.ownExpression? s site = none) (hallOf : s.allOf = none)
    (halternatives : s.alternatives = some branches) :
    c.compileWith again s site = c.step s site (c.compileWith again) := by
  have hcompiled := c.compileAlternatives_eq again s site.key site.insideArray
  rw [halternatives, Option.map_some, compileList_eq] at hcompiled
  rw [step, calls, plan_of_alternatives hown hallOf halternatives, noticed_of_undecided hown]
  cases s
  obtain rfl := hallOf
  rw [compileWith, decided?_eq, hown, Option.map_none]
  simp only [Option.isSome_none, Bool.false_eq_true, if_false]
  rw [hcompiled]
  simp only [Plan.expression, Plan.calls, Plan.warnings, List.flatMap_map]
  rfl

theorem compileWith_eq_step_of_type (hown : c.ownExpression? s site = none)
    (hallOf : s.allOf = none) (halternatives : s.alternatives = none) :
    c.compileWith again s site = c.step s site (c.compileWith again) := by
  have hcompiled := c.compileAlternatives_eq again s site.key site.insideArray
  rw [halternatives, Option.map_none] at hcompiled
  rw [step, calls, plan_of_type hown hallOf halternatives, noticed_of_undecided hown]
  unfold planOfType
  rcases s with ⟨reference, circular, keywords, properties, items, additional, allOf, oneOf, anyOf⟩
  obtain rfl := hallOf
  rw [compileWith, decided?_eq, hown, Option.map_none]
  simp only [Option.isSome_none, Bool.false_eq_true, if_false]
  rw [hcompiled]
  dsimp only
  cases typeOf _ with
  | object =>
      dsimp only
      cases bareExample _ _ with
      | some value => simp
      | none =>
          rw [compileProperties_eq, compileEntries_eq, compileAdditional_eq]
          simp only [Plan.expression, Plan.calls, Plan.warnings, List.flatMap_append,
            List.flatMap_map, List.append_assoc, List.nil_append]
          rfl
  | array =>
      dsimp only
      cases bareExample _ _ with
      | some value => simp
      | none =>
          cases items <;> rw [compileItems] <;> simp
  | _ => simp

/-- A node without `allOf` is compiled from its children. -/
theorem compileWith_eq_step (hallOf : s.allOf = none) :
    c.compileWith again s site = c.step s site (c.compileWith again) := by
  cases hown : c.ownExpression? s site with
  | some e => exact compileWith_eq_step_of_own hown
  | none =>
      cases halternatives : s.alternatives with
      | some branches => exact compileWith_eq_step_of_alternatives hown hallOf halternatives
      | none => exact compileWith_eq_step_of_type hown hallOf halternatives

/-- A node without `allOf` depends on its children only by what they compile to. -/
theorem compileWith_mapChildren {again' : Schema → Site → Compiled} {f : Schema → Schema}
    (hallOf : s.allOf = none)
    (hchildren : ∀ t ∈ s.children, ∀ site,
      c.compileWith again (f t) site = c.compileWith again' t site) :
    c.compileWith again (s.mapChildren f) site = c.compileWith again' s site := by
  have hmapped : (s.mapChildren f).allOf = none := by rw [mapChildren, hallOf, Option.map_none]
  rw [compileWith_eq_step hmapped, compileWith_eq_step hallOf, step_mapChildren f hallOf]
  exact step_congr fun call hcall =>
    hchildren call.1 (mem_children_of_mem_calls hallOf hcall) call.2

/-! ## Nodes without rules and examples -/

/-- Neither a marker nor a rule nor an example decides what the node compiles to. -/
structure Undecided (c : Compiler) (s : Schema) (site : Site) : Prop where
  marker : s.isMarker = false
  rule : site.key.bind c.rule? = none
  sample : c.example? s site = none

theorem Undecided.ownExpression?_eq (h : c.Undecided s site) :
    c.ownExpression? s site = enumeration? s := by
  rw [ownExpression?, if_neg (by simp [h.marker]), h.rule]
  dsimp only
  rw [h.sample, Option.map_none, Option.none_or]

variable (again)

theorem enumeration?_eq_none (h : s.keywords.enum.getD [] = []) : enumeration? s = none := by
  cases henum : s.keywords.enum with
  | none => simp [enumeration?, henum]
  | some values =>
      obtain rfl : values = [] := by simpa [henum] using h
      simp [enumeration?, henum]

theorem extra_expressionFor (insideArray : Bool) (additional : Option (Additional Schema)) :
    Plan.extra (c.expressionFor again none insideArray) additional =
      c.extraEntries again insideArray additional := by
  match additional with
  | some (.schema t) => rfl
  | some (.flag true) | some (.flag false) | none => rfl

theorem Undecided.expression_of_type (h : c.Undecided s site)
    (henum : s.keywords.enum.getD [] = []) (hallOf : s.allOf = none)
    (halternatives : s.alternatives = none) (hsample : s.keywords.exampleValue = none) :
    (c.compileWith again s site).expression =
      match typeOf s with
      | .string => .call (c.stringCapability s.keywords site.key).1
      | .number => .call (c.numberCapability s.keywords site.key)
      | .integer => .call (c.numberCapability s.keywords site.key)
      | .boolean => .call .boolean
      | .object => .object
          ((s.properties.getD []).map (fun e =>
            (.fixed e.1, c.expressionFor again (some e.1) site.insideArray e.2)) ++
            c.extraEntries again site.insideArray s.additional)
      | .array => .copies c.context.arrayLength
          ((s.items.map (c.expressionFor again site.key true)).getD .null)
      | .other _ => .null := by
  have hown : c.ownExpression? s site = none :=
    h.ownExpression?_eq.trans (enumeration?_eq_none henum)
  have hbare : ∀ described, bareExample s described = none := by
    intro described
    rw [bareExample, hsample, ite_self]
  rw [compileWith_eq_step hallOf, step, plan_of_type hown hallOf halternatives, planOfType,
    ← extra_expressionFor]
  cases typeOf s <;> simp only [hbare] <;> rfl

variable {again}

/-! ## Without a bound -/

/-- Once it is as large as the weight, the bound on flattenings does not matter. -/
theorem compileWith_compileFrom {n m : Nat} (hn : s.weight ≤ n) (hm : s.weight ≤ m) (site : Site) :
    c.compileWith (c.compileFrom n) s site = c.compileWith (c.compileFrom m) s site := by
  induction s, site using c.callInduction generalizing n m with
  | step s site ih =>
      cases hallOf : s.allOf with
      | none =>
          rw [compileWith_eq_step hallOf, compileWith_eq_step hallOf]
          refine step_congr fun call hcall => ?_
          have hlt := weight_lt_of_mem_calls hcall
          exact ih call hcall (by omega) (by omega)
      | some branches =>
          have hsome : s.allOf.isSome := Option.isSome_of_mem hallOf
          rw [compileWith_eq_step_of_allOf hsome, compileWith_eq_step_of_allOf hsome]
          refine step_congr fun call hcall => ?_
          have hlt := weight_lt_of_mem_calls hcall
          obtain ⟨n, rfl⟩ := Nat.exists_eq_add_one_of_ne_zero (show n ≠ 0 by omega)
          obtain ⟨m, rfl⟩ := Nat.exists_eq_add_one_of_ne_zero (show m ≠ 0 by omega)
          rw [compileFrom, compileFrom]
          exact ih call hcall (by omega) (by omega)

theorem compile_some (c : Compiler) (s : Schema) (site : Site) :
    c.compile (some s) site = c.compileWith (c.compileFrom s.weight) s site := by
  rw [compile, compileFrom]

/-- Compiling a node is one step from what compiling gives for the nodes below. -/
theorem compile_eq_step (c : Compiler) (s : Schema) (site : Site) :
    c.compile (some s) site = c.step s site fun t => c.compile (some t) := by
  rw [compile_some]
  cases hallOf : s.allOf with
  | none =>
      rw [compileWith_eq_step hallOf]
      refine step_congr fun call hcall => ?_
      rw [compile_some]
      exact compileWith_compileFrom (Nat.le_of_lt (weight_lt_of_mem_calls hcall)) (Nat.le_refl _) _
  | some branches =>
      rw [compileWith_eq_step_of_allOf (Option.isSome_of_mem hallOf)]
      refine step_congr fun call hcall => ?_
      have hlt := weight_lt_of_mem_calls hcall
      obtain ⟨n, hn⟩ := Nat.exists_eq_add_one_of_ne_zero (show s.weight ≠ 0 by omega)
      rw [hn, compileFrom, compile_some]
      exact compileWith_compileFrom (by omega) (Nat.le_refl _) _

/-- A node is compiled from what its children and the flattened node compile to, without a bound. -/
theorem compile_eq (c : Compiler) (s : Schema) (site : Site) :
    c.compile (some s) site = c.compileWith (fun t => c.compile (some t)) s site := by
  induction s, site using c.callInduction with
  | step s site ih =>
      rw [compile_eq_step]
      cases hallOf : s.allOf with
      | none =>
          rw [compileWith_eq_step hallOf]
          exact step_congr ih
      | some branches =>
          exact (compileWith_eq_step_of_allOf (Option.isSome_of_mem hallOf)).symm

theorem expression_compile (c : Compiler) (s : Schema) (site : Site) :
    (c.compile (some s) site).expression =
      (c.plan s site).expression c.context.arrayLength site fun t site =>
        (c.compile (some t) site).expression := by
  rw [compile_eq_step, step]

theorem mismatches_compile (c : Compiler) (s : Schema) (site : Site) :
    (c.compile (some s) site).mismatches = c.noticed s site ++
      (c.calls s site).flatMap fun call => (c.compile (some call.1) call.2).mismatches := by
  rw [compile_eq_step, step]

theorem warnings_compile (c : Compiler) (s : Schema) (site : Site) :
    (c.compile (some s) site).warnings = (c.plan s site).warnings ++
      (c.calls s site).flatMap fun call => (c.compile (some call.1) call.2).warnings := by
  rw [compile_eq_step, step]

/-- What holds of the mismatches that are noticed about nodes holds of all that are recorded. -/
theorem forall_mem_mismatches {holds : Mismatch → Prop}
    (h : ∀ s site, ∀ m ∈ c.noticed s site, holds m) :
    ∀ m ∈ (c.compile (some s) site).mismatches, holds m := by
  induction s, site using c.callInduction with
  | step s site ih =>
      rw [mismatches_compile, List.forall_mem_append]
      refine ⟨h s site, fun m hm => ?_⟩
      obtain ⟨call, hcall, hm⟩ := List.mem_flatMap.mp hm
      exact ih call hcall m hm

theorem useExample_of_mem_noticed {m : Mismatch} (h : m ∈ c.noticed s site) :
    c.context.useExample = true := by
  unfold noticed mismatch? at h
  by_contra hexample
  rw [if_neg hexample] at h
  simp at h

/-- Without examples no mismatch is recorded. -/
theorem mismatches_eq_nil (h : c.context.useExample = false) :
    (c.compile (some s) site).mismatches = [] := by
  have hnone : ∀ m ∈ (c.compile (some s) site).mismatches, c.context.useExample = true :=
    forall_mem_mismatches fun _ _ _ => useExample_of_mem_noticed
  rw [h] at hnone
  exact List.eq_nil_iff_forall_not_mem.mpr fun m hm => Bool.false_ne_true (hnone m hm)

end MockApi.Compiler
