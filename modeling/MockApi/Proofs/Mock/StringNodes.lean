import MockApi.Proofs.Mock.Steps
import MockApi.Proofs.Mock.Typed

/-! # Nodes that become strings

A node becomes a string when nothing of its own decides for it, it has no alternatives, and its type
is that of strings. A node with `allOf` becomes what it is flattened to, as often as there is
`allOf` left. The keywords of the string node choose the capability: one without arguments, texts of
a pattern, or letters. No other node becomes a capability of strings.
-/

namespace MockApi

namespace Capability

/-- A format suggests a capability without arguments, or a pattern. -/
theorem cases_of_format {format : String} {pattern : Option String} {capability : Capability}
    (h : ofFormat? format pattern = some capability) :
    capability ∈ fixed ∨
      format = "regex" ∧ capability = .fromRegex (pattern.getD defaultPattern) := by
  by_cases hregex : format = "regex"
  · subst hregex
    exact .inr ⟨rfl, (Option.some.inj h).symm⟩
  · left
    unfold ofFormat? at h
    split at h <;> cases h <;> simp [fixed] at hregex ⊢

theorem mem_fixed_of_stringKey {key : String} {capability : Capability}
    (h : ofStringKey? key = some capability) : capability ∈ fixed := by
  obtain ⟨e, he, rfl⟩ := exists_of_lookUp h
  revert e
  simp [stringTable, fixed]

theorem alpha_notMem_fixed (minLength maxLength : Option Nat) :
    alpha minLength maxLength ∉ fixed := by
  simp [fixed]

theorem fromRegex_notMem_fixed (pattern : String) : fromRegex pattern ∉ fixed := by
  simp [fixed]

end Capability

/-- A pattern is given, and no known format decides before it. -/
structure Keywords.HasPattern (k : Keywords) (pattern : String) : Prop where
  pattern : k.pattern = some pattern
  format : (k.format.bind fun f => Capability.ofFormat? f k.pattern) = none

namespace Compiler

variable {c : Compiler} {site : Site} {s t u : Schema}

/-! ## What keywords ask for -/

section Keywords

variable {k : Keywords} {key : Option String}

/-- The keywords ask for texts of the pattern: their format is that of patterns, where a default
fills in for none, or the pattern is given and the engine accepts it. -/
inductive AsksFor (c : Compiler) (k : Keywords) : String → Prop
  | format (h : k.format = some "regex") :
      AsksFor c k (k.pattern.getD Capability.defaultPattern)
  | keyword {pattern : String} (h : k.HasPattern pattern)
      (accepted : c.engine.accepts pattern = true) : AsksFor c k pattern

theorem stringCapability_of_format (h : k.format = some "regex") : c.stringCapability k key =
    (.fromRegex (k.pattern.getD Capability.defaultPattern), []) := by
  rw [stringCapability, h]
  rfl

theorem stringCapability_of_pattern {pattern : String} (h : k.HasPattern pattern) :
    c.stringCapability k key =
      if c.engine.accepts pattern then (.fromRegex pattern, [])
      else (.words, [.keyword pattern]) := by
  rw [stringCapability, h.format, h.pattern]

theorem lettersFor_ne_fromRegex (minLength maxLength : Option Nat) (pattern : String) :
    lettersFor minLength maxLength ≠ .fromRegex pattern := by
  unfold lettersFor
  split
  next => exact nofun
  next => split <;> exact nofun
  next => split <;> exact nofun
  next => exact nofun

/-- A capability of strings has no arguments, or it is one of texts of a pattern that the keywords
ask for, or one of letters. -/
theorem stringCapability_cases (c : Compiler) (k : Keywords) (key : Option String) :
    (c.stringCapability k key).1 ∈ Capability.fixed ∨
      (∃ pattern, c.AsksFor k pattern ∧ (c.stringCapability k key).1 = .fromRegex pattern) ∨
      (c.stringCapability k key).1 = lettersFor k.minLength k.maxLength := by
  unfold stringCapability
  split
  next capability hformat =>
    obtain ⟨format, hdeclared, hformat⟩ := Option.bind_eq_some_iff.mp hformat
    rcases Capability.cases_of_format hformat with hfixed | ⟨rfl, rfl⟩
    · exact .inl hfixed
    · exact .inr (.inl ⟨_, .format hdeclared, rfl⟩)
  next hformat =>
    split
    next pattern hpattern =>
      split
      next accepted => exact .inr (.inl ⟨_, .keyword ⟨hpattern, hformat⟩ accepted, rfl⟩)
      next => exact .inl (by simp [Capability.fixed])
    next =>
      split
      next capability hkey =>
        obtain ⟨name, -, hname⟩ := Option.bind_eq_some_iff.mp hkey
        exact .inl (Capability.mem_fixed_of_stringKey hname)
      next => exact .inr (.inr rfl)

end Keywords

/-! ## String nodes -/

/-- The second node is a string node, and it is the first one or what the first one is flattened
to. -/
inductive BecomesString (c : Compiler) (site : Site) : Schema → Schema → Prop
  | itself {s : Schema} (own : c.ownExpression? s site = none) (allOf : s.allOf = none)
      (alternatives : s.alternatives = none) (type : typeOf s = .string) : BecomesString c site s s
  | flattened {s t : Schema} (own : c.ownExpression? s site = none) (allOf : s.allOf.isSome)
      (rest : BecomesString c site s.flattenAllOf t) : BecomesString c site s t

theorem BecomesString.unique (h : c.BecomesString site s t) (h' : c.BecomesString site s u) :
    t = u := by
  induction h with
  | itself own allOf alternatives type =>
      cases h' with
      | itself => rfl
      | flattened own' allOf' rest' =>
          rw [allOf] at allOf'
          cases allOf'
  | flattened own allOf rest ih =>
      cases h' with
      | itself own' allOf' alternatives' type' =>
          rw [allOf'] at allOf
          cases allOf
      | flattened own' allOf' rest' => exact ih rest'

/-! ## Compiling -/

theorem plan_of_string (own : c.ownExpression? s site = none) (allOf : s.allOf = none)
    (alternatives : s.alternatives = none) (type : typeOf s = .string) :
    c.plan s site = .settled (.call (c.stringCapability s.keywords site.key).1)
      (c.stringCapability s.keywords site.key).2 := by
  rw [plan_of_type own allOf alternatives, planOfType, type]

/-- The node at the end decides alone. -/
theorem BecomesString.compile (h : c.BecomesString site s t) :
    (c.compile (some s) site).expression = .call (c.stringCapability t.keywords site.key).1 ∧
      (c.compile (some s) site).warnings = (c.stringCapability t.keywords site.key).2 := by
  induction h with
  | itself own allOf alternatives type =>
      have hplan := plan_of_string own allOf alternatives type
      rw [expression_compile, warnings_compile, calls, hplan]
      simp
  | flattened own allOf rest ih =>
      have hplan := plan_of_allOf own allOf
      rw [expression_compile, warnings_compile, calls, hplan]
      simpa using ih

/-- What a node has of its own is no capability. -/
theorem ownExpression?_ne_call (capability : Capability) :
    c.ownExpression? s site ≠ some (.call capability) := by
  unfold ownExpression?
  split
  · exact nofun
  · split
    next rule _ => cases rule <;> exact nofun
    next =>
      cases c.example? s site with
      | some value => exact nofun
      | none =>
          unfold enumeration?
          cases s.keywords.enum.filter fun values => !values.isEmpty <;> exact nofun

/-- Numbers and booleans do not become capabilities of strings. -/
theorem stringCapability_eq_of_planOfType {capability : Capability} {key : Option String}
    {arrayLength : Nat} {below : Schema → Site → Expression}
    (hstring : capability.jsonType = .string)
    (h : (c.planOfType s key).expression arrayLength site below = .call capability) :
    typeOf s = .string ∧ (c.stringCapability s.keywords key).1 = capability := by
  unfold planOfType at h
  cases htype : typeOf s with
  | string =>
      rw [htype] at h
      cases h
      exact ⟨rfl, rfl⟩
  | number | integer =>
      rw [htype] at h
      cases h
      rw [c.jsonType_numberCapability] at hstring
      cases hstring
  | boolean =>
      rw [htype] at h
      cases h
      cases hstring
  | object | array =>
      simp only [htype] at h
      split at h <;> cases h
  | other name =>
      rw [htype] at h
      cases h

/-- Only string nodes become capabilities of strings. -/
theorem exists_becomesString {capability : Capability} (hstring : capability.jsonType = .string)
    (h : (c.compile (some s) site).expression = .call capability) :
    ∃ t, c.BecomesString site s t ∧ (c.stringCapability t.keywords site.key).1 = capability := by
  induction s, site using c.callInduction with
  | step s site ih =>
      rw [expression_compile] at h
      cases own : c.ownExpression? s site with
      | some e =>
          rw [plan_of_own own] at h
          exact absurd (own.trans (congrArg some h)) (ownExpression?_ne_call capability)
      | none =>
          cases hallOf : s.allOf with
          | some branches =>
              have allOf : s.allOf.isSome := Option.isSome_of_mem hallOf
              have hplan := plan_of_allOf own allOf
              have hcall : (s.flattenAllOf, site) ∈ c.calls s site := by
                rw [calls, hplan]
                exact List.mem_singleton_self _
              rw [hplan] at h
              obtain ⟨t, rest, hcapability⟩ := ih _ hcall h
              exact ⟨t, .flattened own allOf rest, hcapability⟩
          | none =>
              cases alternatives : s.alternatives with
              | some branches =>
                  rw [plan_of_alternatives own hallOf alternatives] at h
                  cases h
              | none =>
                  rw [plan_of_type own hallOf alternatives] at h
                  obtain ⟨type, hcapability⟩ := stringCapability_eq_of_planOfType hstring h
                  exact ⟨s, .itself own hallOf alternatives type, hcapability⟩

/-- A capability of strings is the choice of a string node. -/
theorem compile_eq_call_iff {capability : Capability} (hstring : capability.jsonType = .string) :
    (c.compile (some s) site).expression = .call capability ↔
      ∃ t, c.BecomesString site s t ∧ (c.stringCapability t.keywords site.key).1 = capability := by
  constructor
  · exact exists_becomesString hstring
  · rintro ⟨t, ht, rfl⟩
    exact ht.compile.1

end Compiler

end MockApi
