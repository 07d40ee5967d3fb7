import MockApi.Mock.Compile
import MockApi.Proofs.Number.Shift

/-! # Numeric bounds

Keywords without a rule for their key ask for numbers between a lower and an upper bound. Where the
two are in order, an integer between them meets every declared bound that the one in force on its
side is as strict as. Where they are reversed, the only integer between them is the one that meets
all declared bounds, if there is one.
-/

namespace MockApi

open Double

/-! ## Declared bounds -/

/-- A declared bound; a strict one does not admit its own value. -/
structure Bound where
  value : Float
  strict : Bool

namespace Bound

/-- The integer is on the upper side of a lower bound; nothing is on any side of NaN. -/
def Below (b : Bound) (n : ℤ) : Prop :=
  b.value.isNaN = false ∧ if b.strict then exact b.value < point n else exact b.value ≤ point n

/-- The integer is on the lower side of an upper bound. -/
def Above (b : Bound) (n : ℤ) : Prop :=
  b.value.isNaN = false ∧ if b.strict then point n < exact b.value else point n ≤ exact b.value

instance (b : Bound) (n : ℤ) : Decidable (b.Below n) :=
  inferInstanceAs (Decidable (_ ∧ if b.strict then _ else _))

instance (b : Bound) (n : ℤ) : Decidable (b.Above n) :=
  inferInstanceAs (Decidable (_ ∧ if b.strict then _ else _))

/-- The bounds that one side declares: the flag makes the bound beside it strict, and a number is a
strict bound of its own. -/
def declared (bound : Option Float) : Option ExclusiveBound → List Bound
  | some (.value x) => bound.toList.map (⟨·, false⟩) ++ [⟨x, true⟩]
  | some (.flag true) => bound.toList.map (⟨·, true⟩)
  | _ => bound.toList.map (⟨·, false⟩)

/-- How the bound in force on one side comes from the declared ones: there are none, it is one of
them, or it is a strict one shifted by one. -/
inductive InForce (shift : Float → Float) (bound : Option Float) : List Bound → Float → Prop
  | default {x : Float} (h : x.isNaN = false) : InForce shift bound [] x
  | plain (x : Float) : InForce shift bound [⟨x, false⟩] x
  | shifted {x : Float} {bounds : List Bound} (mem : ⟨x, true⟩ ∈ bounds)
      (others : ∀ b ∈ bounds, b = ⟨x, true⟩ ∨ b.strict = false ∧ bound = some b.value) :
      InForce shift bound bounds (shift x)

theorem declared_others (bound : Option Float) (x : Float) :
    ∀ b ∈ declared bound (some (.value x)),
      b = ⟨x, true⟩ ∨ b.strict = false ∧ bound = some b.value := by
  intro b hb
  rcases List.mem_append.mp hb with hb | hb
  · cases bound with
    | none => cases hb
    | some y =>
        obtain rfl := List.mem_singleton.mp hb
        exact .inr ⟨rfl, rfl⟩
  · exact .inl (List.mem_singleton.mp hb)

theorem InForce.of_plain {shift : Float → Float} {bound : Option Float} {x : Float}
    (h : x.isNaN = false) :
    InForce shift bound (bound.toList.map (⟨·, false⟩)) (bound.getD x) := by
  cases bound with
  | none => exact .default h
  | some x => exact .plain x

theorem InForce.of_flag (shift : Float → Float) {bound : Option Float} {x : Float}
    (h : (shift x).isNaN = false) :
    InForce shift bound (bound.toList.map (⟨·, true⟩)) (shift (bound.getD x)) := by
  cases bound with
  | none => exact .default h
  | some x =>
      refine .shifted (List.mem_singleton.mpr rfl) fun b hb => ?_
      exact .inl (List.mem_singleton.mp hb)

theorem inForce_lowerBound (bound : Option Float) (exclusive : Option ExclusiveBound) :
    InForce (· + 1) bound (declared bound exclusive) (Compiler.lowerBound bound exclusive) := by
  rcases exclusive with _ | (_ | _) | x
  · exact .of_plain rfl
  · exact .of_plain rfl
  · exact .of_flag (· + 1) rfl
  · exact .shifted (by simp [declared]) (declared_others bound x)

theorem inForce_upperBound (bound : Option Float) (exclusive : Option ExclusiveBound) :
    InForce (· - 1) bound (declared bound exclusive) (Compiler.upperBound bound exclusive) := by
  rcases exclusive with _ | (_ | _) | x
  · exact .of_plain rfl
  · exact .of_plain rfl
  · exact .of_flag (· - 1) rfl
  · exact .shifted (by simp [declared]) (declared_others bound x)

section Sides

variable {bound : Option Float} {bounds : List Bound} {x : Float} {n : ℤ}

/-- Raising a strict one by one is not lost in rounding. -/
def Raised (bounds : List Bound) : Prop :=
  ∀ b ∈ bounds, b.strict = true → b.value.isFinite = true → b.value < b.value + 1

/-- Lowering a strict one by one is not lost in rounding. -/
def Lowered (bounds : List Bound) : Prop :=
  ∀ b ∈ bounds, b.strict = true → b.value.isFinite = true → b.value - 1 < b.value

/-- Shifting a strict one by one makes no fraction whole. -/
def Kept (shift : Float → Float) (bounds : List Bound) : Prop :=
  ∀ b ∈ bounds, b.strict = true →
    IsSafe b.value ∧ (isWhole (shift b.value) = true → isWhole b.value = true)

theorem InForce.isNaN_lower (h : InForce (· + 1) bound bounds x) (hr : Raised bounds)
    (hnan : ∀ b ∈ bounds, b.value.isNaN = false) : x.isNaN = false := by
  cases h with
  | default h => exact h
  | plain => exact hnan ⟨x, false⟩ (List.mem_singleton.mpr rfl)
  | @shifted y _ mem => exact isNaN_add_one (hnan ⟨y, true⟩ mem) (hr ⟨y, true⟩ mem rfl)

theorem InForce.isNaN_upper (h : InForce (· - 1) bound bounds x) (hr : Lowered bounds)
    (hnan : ∀ b ∈ bounds, b.value.isNaN = false) : x.isNaN = false := by
  cases h with
  | default h => exact h
  | plain => exact hnan ⟨x, false⟩ (List.mem_singleton.mpr rfl)
  | @shifted y _ mem => exact isNaN_sub_one (hnan ⟨y, true⟩ mem) (hr ⟨y, true⟩ mem rfl)

/-- What is at or above the lower bound in force is above all declared ones, if that bound is as
strict as the plain one beside it. -/
theorem InForce.below_of_le (h : InForce (· + 1) bound bounds x) (hr : Raised bounds)
    (hnan : ∀ b ∈ bounds, b.value.isNaN = false) (hplain : ∀ y, bound = some y → y ≤ x)
    (hn : exact x ≤ point n) : ∀ b ∈ bounds, b.Below n := by
  have hx := h.isNaN_lower hr hnan
  cases h with
  | default => exact nofun
  | plain =>
      intro b hb
      obtain rfl := List.mem_singleton.mp hb
      exact ⟨hx, hn⟩
  | shifted mem others =>
      intro b hb
      refine ⟨hnan b hb, ?_⟩
      rcases others b hb with rfl | ⟨hs, hy⟩
      · exact lt_point_of_add_one_le (hnan _ mem) (hr _ mem rfl) hn
      · rw [if_neg (by simp [hs])]
        exact ((le_iff_exact (hnan b hb) hx).mp (hplain _ hy)).trans hn

theorem InForce.above_of_le (h : InForce (· - 1) bound bounds x) (hr : Lowered bounds)
    (hnan : ∀ b ∈ bounds, b.value.isNaN = false) (hplain : ∀ y, bound = some y → x ≤ y)
    (hn : point n ≤ exact x) : ∀ b ∈ bounds, b.Above n := by
  have hx := h.isNaN_upper hr hnan
  cases h with
  | default => exact nofun
  | plain =>
      intro b hb
      obtain rfl := List.mem_singleton.mp hb
      exact ⟨hx, hn⟩
  | shifted mem others =>
      intro b hb
      refine ⟨hnan b hb, ?_⟩
      rcases others b hb with rfl | ⟨hs, hy⟩
      · exact point_lt_of_le_sub_one (hnan _ mem) (hr _ mem rfl) hn
      · rw [if_neg (by simp [hs])]
        exact hn.trans ((le_iff_exact hx (hnan b hb)).mp (hplain _ hy))

/-- The lower bound in force is less than one above an integer that meets the declared ones. -/
theorem InForce.lt_of_below (h : InForce (· + 1) bound bounds x) (hk : Kept (· + 1) bounds)
    (hne : bounds ≠ []) (hn : ∀ b ∈ bounds, b.Below n) : exact x < point (n + 1) := by
  cases h with
  | default => exact absurd rfl hne
  | plain =>
      have hle := (hn ⟨x, false⟩ (List.mem_singleton.mpr rfl)).2
      exact lt_of_le_of_lt hle (point_lt_point.mpr (by omega))
  | shifted mem =>
      obtain ⟨hnan, hlt⟩ := hn _ mem
      obtain ⟨hsafe, hwhole⟩ := hk _ mem rfl
      exact add_one_lt_point hnan hsafe hwhole hlt

theorem InForce.lt_of_above (h : InForce (· - 1) bound bounds x) (hk : Kept (· - 1) bounds)
    (hne : bounds ≠ []) (hn : ∀ b ∈ bounds, b.Above n) : point (n - 1) < exact x := by
  cases h with
  | default => exact absurd rfl hne
  | plain =>
      have hle := (hn ⟨x, false⟩ (List.mem_singleton.mpr rfl)).2
      exact lt_of_lt_of_le (point_lt_point.mpr (by omega)) hle
  | shifted mem =>
      obtain ⟨hnan, hlt⟩ := hn _ mem
      obtain ⟨hsafe, hwhole⟩ := hk _ mem rfl
      exact point_lt_sub_one hnan hsafe hwhole hlt

end Sides

end Bound

/-! ## The range of keywords -/

namespace Keywords

variable (k : Keywords)

/-- The lower bounds that are declared. -/
def lowerBounds : List Bound := Bound.declared k.minimum k.exclusiveMinimum

/-- The upper bounds that are declared. -/
def upperBounds : List Bound := Bound.declared k.maximum k.exclusiveMaximum

/-- The lower bound in force. -/
def low : Float := Compiler.lowerBound k.minimum k.exclusiveMinimum

/-- The upper bound in force. -/
def high : Float := Compiler.upperBound k.maximum k.exclusiveMaximum

/-- The integer meets every declared bound. -/
def Admits (n : ℤ) : Prop := (∀ b ∈ k.lowerBounds, b.Below n) ∧ ∀ b ∈ k.upperBounds, b.Above n

instance (n : ℤ) : Decidable (k.Admits n) :=
  inferInstanceAs (Decidable ((∀ b ∈ k.lowerBounds, b.Below n) ∧ ∀ b ∈ k.upperBounds, b.Above n))

/-- Between two numbers there is no integer against a declared bound, if some integer meets all of
them. -/
def Holds (lo hi : Float) : Prop :=
  (∃ n, k.Admits n) → ∀ n, exact lo ≤ point n → point n ≤ exact hi → k.Admits n

/-- The bounds in force say what is declared. A shift by one is not lost in rounding; bounds in
order are as strict as the plain bounds beside them; reversed ones are declared on both sides, and
the shift by one makes no fraction whole. -/
structure Faithful : Prop where
  raised : Bound.Raised k.lowerBounds
  lowered : Bound.Lowered k.upperBounds
  minimum : k.low ≤ k.high → ∀ x, k.minimum = some x → x ≤ k.low
  maximum : k.low ≤ k.high → ∀ x, k.maximum = some x → k.high ≤ x
  lower : k.high < k.low → k.lowerBounds ≠ [] ∧ Bound.Kept (· + 1) k.lowerBounds
  upper : k.high < k.low → k.upperBounds ≠ [] ∧ Bound.Kept (· - 1) k.upperBounds

variable {k}

theorem inForce_low : Bound.InForce (· + 1) k.minimum k.lowerBounds k.low :=
  Bound.inForce_lowerBound _ _

theorem inForce_high : Bound.InForce (· - 1) k.maximum k.upperBounds k.high :=
  Bound.inForce_upperBound _ _

theorem isNaN_low (h : k.Faithful) {n : ℤ} (hn : k.Admits n) : k.low.isNaN = false :=
  inForce_low.isNaN_lower h.raised fun b hb => (hn.1 b hb).1

theorem isNaN_high (h : k.Faithful) {n : ℤ} (hn : k.Admits n) : k.high.isNaN = false :=
  inForce_high.isNaN_upper h.lowered fun b hb => (hn.2 b hb).1

theorem admits_of_le (h : k.Faithful) {n : ℤ} (hn : k.Admits n)
    (hle : exact k.low ≤ exact k.high) {j : ℤ} (hlow : exact k.low ≤ point j)
    (hhigh : point j ≤ exact k.high) : k.Admits j := by
  have hord : k.low ≤ k.high := (le_iff_exact (isNaN_low h hn) (isNaN_high h hn)).mpr hle
  exact ⟨inForce_low.below_of_le h.raised (fun b hb => (hn.1 b hb).1) (h.minimum hord) hlow,
    inForce_high.above_of_le h.lowered (fun b hb => (hn.2 b hb).1) (h.maximum hord) hhigh⟩

/-- Reversed bounds leave room for no other integer than the one that meets all declared bounds. -/
theorem eq_of_lt (h : k.Faithful) {n : ℤ} (hn : k.Admits n) (hgt : exact k.high < exact k.low)
    {j : ℤ} (hlow : exact k.high ≤ point j) (hhigh : point j ≤ exact k.low) : j = n := by
  have hord : k.high < k.low := (lt_iff_exact (isNaN_high h hn) (isNaN_low h hn)).mpr hgt
  obtain ⟨hnel, hkl⟩ := h.lower hord
  obtain ⟨hneu, hku⟩ := h.upper hord
  -- Each bound is less than one away from `n`, so `j` is neither below nor above it.
  have hj : j < n + 1 := point_lt_point.mp (hhigh.trans_lt (inForce_low.lt_of_below hkl hnel hn.1))
  have hj' : n - 1 < j := point_lt_point.mp ((inForce_high.lt_of_above hku hneu hn.2).trans_le hlow)
  omega

theorem Faithful.holds (h : k.Faithful) : k.Holds (smaller k.low k.high) (larger k.high k.low) := by
  rintro ⟨n, hn⟩ j hlow hhigh
  rw [exact_smaller (isNaN_low h hn) (isNaN_high h hn)] at hlow
  rw [exact_larger (isNaN_high h hn) (isNaN_low h hn)] at hhigh
  rcases le_or_gt (exact k.low) (exact k.high) with hle | hgt
  · rw [min_eq_left hle] at hlow
    rw [max_eq_left hle] at hhigh
    exact admits_of_le h hn hle hlow hhigh
  · rw [min_eq_right hgt.le] at hlow
    rw [max_eq_right hgt.le] at hhigh
    rw [eq_of_lt h hn hgt hlow hhigh]
    exact hn

end Keywords

namespace Compiler

theorem numberCapability_eq {c : Compiler} {k : Keywords} {key : Option String}
    (hkey : key.bind (Capability.ofNumberKey? c.year) = none) :
    c.numberCapability k key = .number (smaller k.low k.high) (larger k.high k.low)
      ((k.multipleOf.filter fun x => 0 < x).getD Capability.defaultStep) := by
  rw [numberCapability, hkey, Option.getD_none, boundedNumber]
  rfl

/-- The range of a number is in order unless both its bounds are NaN, and where the bounds in force
say what is declared, none of its integers is against a declared bound. -/
theorem numberCapability_range (c : Compiler) (k : Keywords) (key : Option String)
    (hkey : key.bind (Capability.ofNumberKey? c.year) = none) :
    ∃ lo hi step, c.numberCapability k key = .number lo hi step ∧
      (¬ (k.low.isNaN = true ∧ k.high.isNaN = true) → lo ≤ hi) ∧
      (k.Faithful → k.Holds lo hi) :=
  ⟨_, _, _, numberCapability_eq hkey, smaller_le_larger_iff.mpr, Keywords.Faithful.holds⟩

/-- Two strict bounds around five that are reversed once they are shifted. -/
def aroundFive : Keywords where
  exclusiveMinimum := some (.value 4.5)
  exclusiveMaximum := some (.value 5.5)

theorem isSafe_of_exact {x : Float} {q : ℚ} (hx : exact x = ((q : ℚ) : WithTop ℚ))
    (hq : |q| ≤ 2 ^ 53 - 1) : IsSafe x := by
  intro r hr
  rw [hx] at hr
  cases hr
  exact hq

theorem faithful_aroundFive : aroundFive.Faithful where
  raised := by unfold Bound.Raised; decide +kernel
  lowered := by unfold Bound.Lowered; decide +kernel
  minimum := nofun
  maximum := nofun
  lower _ := by
    refine ⟨nofun, fun b hb _ => ?_⟩
    obtain rfl := List.mem_singleton.mp hb
    exact ⟨isSafe_of_exact (show exact 4.5 = ((4.5 : ℚ) : WithTop ℚ) by decide +kernel)
      (by norm_num [abs_le]), by decide +kernel⟩
  upper _ := by
    refine ⟨nofun, fun b hb _ => ?_⟩
    obtain rfl := List.mem_singleton.mp hb
    exact ⟨isSafe_of_exact (show exact 5.5 = ((5.5 : ℚ) : WithTop ℚ) by decide +kernel)
      (by norm_num [abs_le]), by decide +kernel⟩

theorem numberCapability_range_aroundFive :
    let c : Compiler := ⟨⟨"/orders", .get, 5, false, false, []⟩, ⟨fun _ => none⟩, 2024⟩
    ∃ lo hi step, c.numberCapability aroundFive (some "ratio") = .number lo hi step ∧
      lo ≤ hi ∧ aroundFive.Holds lo hi := by
  intro c
  obtain ⟨lo, hi, step, heq, hle, hholds⟩ :=
    numberCapability_range c aroundFive (some "ratio") (by decide)
  exact ⟨lo, hi, step, heq, hle (by decide +kernel), hholds faithful_aroundFive⟩

/-- A range in order, none of whose integers is against a declared bound. -/
def Respects (k : Keywords) : Capability → Prop
  | .number lo hi _ => lo ≤ hi ∧ k.Holds lo hi
  | _ => False

theorem not_respects {c : Compiler} {k : Keywords} (n j : ℤ) (hn : k.Admits n)
    (hj : ¬ k.Admits j) (hlow : exact (smaller k.low k.high) ≤ point j)
    (hhigh : point j ≤ exact (larger k.high k.low)) :
    ¬ Respects k (c.numberCapability k none) := by
  rw [numberCapability_eq rfl]
  exact fun ⟨_, hholds⟩ => hj (hholds ⟨n, hn⟩ j hlow hhigh)

/-- What goes against the bounds: a lower bound above the default upper one, a plain bound beside a
weaker strict one, a shift that is lost in rounding, one that makes a fraction whole, and NaN. -/
theorem not_respects_cases :
    let c : Compiler := ⟨⟨"/orders", .get, 5, false, false, []⟩, ⟨fun _ => none⟩, 2024⟩
    let range := fun k => c.numberCapability k none
    let above : Keywords := { minimum := some 2000 }
    let beside : Keywords :=
      { minimum := some 10, maximum := some 20, exclusiveMinimum := some (.value 5) }
    let lost : Keywords :=
      { exclusiveMinimum := some (.value 9007199254740992), maximum := some 9007199254740994 }
    let whole : Keywords :=
      { exclusiveMinimum := some (.value (-1)), exclusiveMaximum := some (.value 8.67e-19) }
    let unordered : Keywords := { minimum := some notANumber, maximum := some notANumber }
    ¬ Respects above (range above) ∧ ¬ Respects beside (range beside) ∧
      ¬ Respects lost (range lost) ∧ ¬ Respects whole (range whole) ∧
      ¬ Respects unordered (range unordered) := by
  intro c range above beside lost whole unordered
  refine ⟨not_respects 2000 1000 ?_ ?_ ?_ ?_, not_respects 15 6 ?_ ?_ ?_ ?_,
    not_respects 9007199254740993 9007199254740992 ?_ ?_ ?_ ?_,
    not_respects 0 (-1) ?_ ?_ ?_ ?_, fun ⟨hle, _⟩ => absurd hle (by decide +kernel)⟩
  all_goals decide +kernel

end Compiler

end MockApi
