import MockApi.Proofs.Mock.Compile
import MockApi.Proofs.Mock.Steps
import MockApi.Proofs.Sample.Value

/-! # Strings and integers of a declared type

A schema of strings gives strings, unless its key names a coordinate and nothing else says what the
string looks like. A schema of integers gives integral numbers, except for discounts, for multiples
of a fraction and for multiples beyond the doubles. The key decides before the keywords do, and it
decides for all numbers alike.
-/

namespace MockApi

open Expression Sample

variable {now : Moment} {v : Json}

namespace Expression.Yields

theorem exists_of_isSome {σ : Type} {g : Generator σ} {e : Expression} (s : σ)
    (h : (materialize g [] e s).1.toOption.isSome = true) : ∃ v, Yields g e v := by
  cases hmade : (materialize g [] e s).1 with
  | error failure =>
      rw [hmade] at h
      cases h
  | ok v => exact ⟨v, [], s, hmade⟩

theorem exists_string_iff {capability : Capability}
    (h : Yields (Sample.generator now) (.call capability) v) :
    (∃ t, v = .string t) ↔ capability.jsonType = .string := by
  obtain ⟨s, hvalue⟩ | ⟨_, _, _, _, n, rfl, rfl⟩ := h.of_call
  · exact Sample.exists_string_iff hvalue
  · exact iff_of_false nofun nofun

end Expression.Yields

namespace Compiler

variable {c : Compiler} {s : Schema} {site : Site}

theorem jsonType_stringCapability_iff (k : Keywords) (key : Option String) :
    (c.stringCapability k key).1.jsonType = .string ↔ ¬ k.NamesCoordinate key := by
  constructor
  · intro hstring hnames
    rw [stringCapability, hnames.format, hnames.pattern] at hstring
    rcases hnames.key with hkey | hkey
    · rw [hkey] at hstring
      cases hstring
    · rw [hkey] at hstring
      cases hstring
  · intro hnames
    exact (c.jsonType_stringCapability k key).resolve_right fun h => hnames h.2

/-- What else than an integral number is made up for an integer: a discount, which is a fraction of
one, a multiple of a step that is a fraction, and null for a multiple beyond the doubles. -/
inductive Stray (c : Compiler) (k : Keywords) (key : Option String) : Json → Prop
  | discount (hkey : key.bind (Capability.ofNumberKey? c.year) = some (.float 1)) (s : Seed) :
      Stray c k key (numberJson (roundTo (Draw.unit s).1 1))
  | multiple {step : Float} {factor : Int}
      (hkey : key.bind (Capability.ofNumberKey? c.year) = none) (hstep : k.multipleOf = some step)
      (hpos : 0 < step) (hfactor : |factor| ≤ 2 ^ 63) (hwhole : Double.isWhole step = false) :
      Stray c k key (numberJson (Float.ofInt factor * step))
  | beyond {step : Float} {factor : Int}
      (hkey : key.bind (Capability.ofNumberKey? c.year) = none) (hstep : k.multipleOf = some step)
      (hpos : 0 < step) (hfactor : |factor| ≤ 2 ^ 63)
      (hrange : (Float.ofInt factor * step).isFinite = false) : Stray c k key .null

theorem isIntegral_or_stray_of_bounded {k : Keywords} {key : Option String} {state : Seed}
    (hkey : key.bind (Capability.ofNumberKey? c.year) = none)
    (h : (value now (boundedNumber k) state).1 = .ok v) :
    v.isIntegral = true ∨ c.Stray k key v := by
  rw [boundedNumber, value] at h
  cases hstep : k.multipleOf.filter fun x => 0 < x with
  | none =>
      rw [hstep] at h
      exact .inl (isIntegral_of_multiple_one h)
  | some step =>
      obtain ⟨hdeclared, hpos⟩ := Option.filter_eq_some_iff.mp hstep
      have hpos : 0 < step := of_decide_eq_true hpos
      rw [hstep] at h
      cases hv : v.isIntegral with
      | true => exact .inl rfl
      | false =>
          right
          obtain ⟨factor, hfactor, rfl, hwhole | hrange⟩ := exists_of_multiple hpos h hv
          · exact .multiple hkey hdeclared hpos hfactor hwhole
          · rw [numberJson_of_not_isFinite hrange]
            exact .beyond hkey hdeclared hpos hfactor hrange

theorem isIntegral_or_stray {k : Keywords} {key : Option String}
    (h : Yields (Sample.generator now) (.call (c.numberCapability k key)) v) :
    v.isIntegral = true ∨ c.Stray k key v := by
  obtain ⟨state, (hvalue : (value now _ state).1 = .ok v)⟩ | ⟨_, _, _, _, n, -, rfl⟩ := h.of_call
  · cases hkey : key.bind (Capability.ofNumberKey? c.year) with
    | none =>
        rw [numberCapability, hkey, Option.getD_none] at hvalue
        exact isIntegral_or_stray_of_bounded hkey hvalue
    | some capability =>
        rw [numberCapability, hkey, Option.getD_some] at hvalue
        obtain ⟨name, -, hname⟩ := Option.bind_eq_some_iff.mp hkey
        obtain rfl | ⟨min, max, rfl⟩ | rfl := Capability.cases_of_numberKey hname
        · obtain rfl := Except.ok.inj hvalue
          exact .inr (.discount hkey state)
        · exact .inl (isIntegral_of_multiple_one hvalue)
        · obtain rfl := Except.ok.inj hvalue
          exact .inl rfl
  · exact .inl rfl

/-- Neither a rule nor an example, an enumeration or a composition decides for the node. -/
structure Bare (c : Compiler) (s : Schema) (site : Site) : Prop where
  rule : site.key.bind c.rule? = none
  given : site.given = none
  sample : s.keywords.exampleValue = none
  enum : s.keywords.enum.getD [] = []
  allOf : s.allOf = none
  alternatives : s.alternatives = none

namespace Bare

theorem undecided (h : c.Bare s site) (hs : s.isMarker = false) : c.Undecided s site where
  marker := hs
  rule := h.rule
  sample := by simp [example?, h.given, h.sample]

theorem eq_null_of_marker (hs : s.isMarker = true)
    (hv : Yields (Sample.generator now) (c.compile (some s) site).expression v) : v = .null := by
  rw [compile_some, compileWith_of_marker c _ site hs] at hv
  exact hv.of_literal

theorem expression_of_string (h : c.Bare s site) (hs : s.isMarker = false)
    (htype : s.keywords.type = some .string) :
    (c.compile (some s) site).expression = .call (c.stringCapability s.keywords site.key).1 := by
  rw [compile_some, (h.undecided hs).expression_of_type _ h.enum h.allOf h.alternatives h.sample,
    typeOf, htype]
  rfl

theorem expression_of_integer (h : c.Bare s site) (hs : s.isMarker = false)
    (htype : s.keywords.type = some .integer) :
    (c.compile (some s) site).expression = .call (c.numberCapability s.keywords site.key) := by
  rw [compile_some, (h.undecided hs).expression_of_type _ h.enum h.allOf h.alternatives h.sample,
    typeOf, htype]
  rfl

/-- A marker gives null. Else a string is made up for a type of strings just where the key does not
name a coordinate, and for a type of integers either an integral number or one of the strays. -/
theorem scalar_of_yields (h : c.Bare s site)
    (hv : Yields (Sample.generator now) (c.compile (some s) site).expression v) :
    (s.isMarker = true → v = .null) ∧
      (s.isMarker = false → s.keywords.type = some .string →
        ((∃ t, v = .string t) ↔ ¬ s.keywords.NamesCoordinate site.key)) ∧
      (s.isMarker = false → s.keywords.type = some .integer →
        v.isIntegral = true ∨ c.Stray s.keywords site.key v) := by
  refine ⟨?_, ?_, ?_⟩
  · intro hs
    exact eq_null_of_marker hs hv
  · intro hs htype
    rw [h.expression_of_string hs htype] at hv
    rw [hv.exists_string_iff, jsonType_stringCapability_iff]
  · intro hs htype
    rw [h.expression_of_integer hs htype] at hv
    exact isIntegral_or_stray hv

theorem scalar_of_yields_seat :
    let c : Compiler := ⟨⟨"/seats", .get, 5, false, false, []⟩, ⟨fun _ => none⟩, 2024⟩
    let gives := fun (s : Schema) (key : String) =>
      Yields (Sample.generator ⟨0⟩) (c.compile (some s) { key := some key }).expression
    let row : Schema := { keywords := { type := some .string, pattern := some "[A-F]" } }
    let seat : Schema := { keywords := { type := some .integer, maximum := some 40 } }
    (∃ v, gives row "latitude" v ∧ ∃ t, v = .string t) ∧
      ∃ v, gives seat "seat" v ∧ (v.isIntegral = true ∨ c.Stray seat.keywords (some "seat") v) := by
  intro c gives row seat
  obtain ⟨v, hv⟩ : ∃ v, gives row "latitude" v :=
    Yields.exists_of_isSome ⟨0⟩ (by decide +kernel)
  obtain ⟨w, hw⟩ : ∃ w, gives seat "seat" w :=
    Yields.exists_of_isSome ⟨0⟩ (by decide +kernel)
  refine ⟨⟨v, hv, ?_⟩, w, hw, ?_⟩
  · have hrow := scalar_of_yields ⟨rfl, rfl, rfl, rfl, rfl, rfl⟩ hv
    exact (hrow.2.1 rfl rfl).mpr fun hnames => nomatch hnames.pattern
  · have hseat := scalar_of_yields ⟨rfl, rfl, rfl, rfl, rfl, rfl⟩ hw
    exact hseat.2.2 rfl rfl

end Bare

/-- What is made up of another type: in place of a string at the name of a coordinate and at
markers; in place of an integer for a discount, for a step that is a fraction, beyond the doubles,
at a marker, and where a rule, an example, an enumeration or a composition decides. -/
theorem not_scalar_cases :
    let c : Compiler := ⟨⟨"/seats", .get, 5, true, false, [("state", .literal (.bool true))]⟩,
      ⟨fun _ => none⟩, 2024⟩
    let made := fun (s : Schema) (key : String) => (materialize (Sample.generator ⟨0⟩) []
      (c.compile (some s) { key := some key }).expression ⟨0⟩).1.toOption
    let text : Keywords := { type := some .string }
    let integer : Keywords := { type := some .integer }
    let halves : Keywords :=
      { integer with minimum := some 2.5, maximum := some 2.5, multipleOf := some 0.5 }
    let huge : Keywords :=
      { integer with minimum := some 1.7e308, maximum := some 1.7976931348623157e308,
                     multipleOf := some 5.992310449541053e307 }
    (∀ e ∈ [({ keywords := text }, "latitude"), ({ keywords := text, circular := true }, "row"),
        ({ keywords := text, reference := some "#/components/schemas/Row" }, "row")],
      (made e.1 e.2).any fun v => !SchemaType.string.admits v) ∧
    ∀ e ∈ [({ keywords := integer }, "discount"), ({ keywords := halves }, "seat"),
        ({ keywords := huge }, "seat"), ({ keywords := integer, circular := true }, "seat"),
        ({ keywords := integer }, "state"),
        ({ keywords := { integer with exampleValue := some (.bool true) } }, "seat"),
        ({ keywords := { integer with enum := some [.bool true] } }, "seat"),
        ({ keywords := integer, oneOf := some [{ keywords := text }] }, "seat")],
      (made e.1 e.2).any fun v => !v.isIntegral := by
  intro c made text integer halves huge
  constructor
  · decide +kernel
  · decide +kernel

end Compiler

end MockApi
