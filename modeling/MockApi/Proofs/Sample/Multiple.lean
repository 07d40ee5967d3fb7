import MockApi.Proofs.Number.Integer
import MockApi.Proofs.Sample.Value

/-! # Multiples in a range

A multiple of a step in a range is drawn as an integer factor times the step. The quotients of both
bounds by the step are rounded to doubles, then up or down to integers, then moved into 64 bits, and
the product is rounded once more. When no factor is left there is no multiple in the range. The
numbers that are drawn keep to the range just when those of the least and the largest factor do.
-/

namespace MockApi

open Double

/-! ## Numbers as JSON -/

/-- The number that a JSON value is. -/
inductive Json.Denotes : Json → ℚ → Prop
  | integer (n : ℤ) : Denotes (.number (.integer n)) n
  | double (x : Float) : Denotes (.number (.double x)) (toRat x)

theorem Json.Denotes.unique {v : Json} {p q : ℚ} (hp : v.Denotes p) (hq : v.Denotes q) :
    p = q := by
  cases hp <;> cases hq <;> rfl

/-- The JSON value is a number of the range. -/
def Json.Within (low high : ℚ) (v : Json) : Prop := ∃ q, v.Denotes q ∧ low ≤ q ∧ q ≤ high

namespace Sample

theorem clampInt64_of_natAbs_le {n : ℤ} (h : (clampInt64 n).natAbs ≤ maxExact) :
    clampInt64 n = n := by
  have hlow : minInt64 = -2 ^ 63 := rfl
  have hhigh : maxInt64 = 2 ^ 63 - 1 := rfl
  have hexact : maxExact = 2 ^ 53 - 1 := rfl
  unfold clampInt64 at *
  omega

theorem denotes_numberJson {x : Float} (hx : x.isFinite = true) :
    (numberJson x).Denotes (toRat x) := by
  unfold numberJson
  split
  next h =>
    obtain ⟨hwhole, hsmall⟩ := Bool.and_eq_true_iff.mp h
    obtain ⟨n, hn⟩ := exists_stands_of_isWhole hwhole
    have hclamp := toInt64_of_stands hn
    have hn' : toInt64 x = n := by
      rw [hclamp] at hsmall ⊢
      exact clampInt64_of_natAbs_le (of_decide_eq_true hsmall)
    have hvalue : toRat x = n := hn.value_eq
    rw [hn', hvalue]
    exact .integer n
  next =>
    rw [Json.ofFloat, if_pos hx]
    exact .double x

/-- A double written as JSON is in a range just when the double is. -/
theorem within_numberJson_iff {x : Float} (hx : x.isNaN = false) {low high : ℚ} :
    (numberJson x).Within low high ↔
      ((low : ℚ) : WithTop ℚ) ≤ exact x ∧ exact x ≤ ((high : ℚ) : WithTop ℚ) := by
  constructor
  · rintro ⟨q, hq, hlow, hhigh⟩
    have hfinite : x.isFinite = true := by
      by_contra h
      rw [numberJson_of_not_isFinite (Bool.eq_false_iff.mpr h)] at hq
      cases hq
    obtain rfl := (denotes_numberJson hfinite).unique hq
    rw [exact_eq_toRat hfinite, WithBot.coe_le_coe, WithTop.coe_le_coe, WithBot.coe_le_coe,
      WithTop.coe_le_coe]
    exact ⟨hlow, hhigh⟩
  · rintro ⟨hlow, hhigh⟩
    have hfinite := isFinite_of_exact hx hlow hhigh
    rw [exact_eq_toRat hfinite, WithBot.coe_le_coe, WithTop.coe_le_coe] at hlow hhigh
    exact ⟨toRat x, denotes_numberJson hfinite, hlow, hhigh⟩

/-! ## The factors -/

/-- The least factor of a multiple that is not below `min`. -/
def leastFactor (min step : Float) : ℤ := toInt64 (ceil (min / step))

/-- The largest factor of a multiple that is not above `max`. -/
def largestFactor (max step : Float) : ℤ := toInt64 (floor (max / step))

/-- The value of a factor. -/
def multipleJson (factor : ℤ) (step : Float) : Json := numberJson (Float.ofInt factor * step)

/-- Some multiple of the step lies in the range. -/
def HasMultiple (min max step : Float) : Prop :=
  ∃ k : ℤ, toRat min ≤ k * toRat step ∧ k * toRat step ≤ toRat max

/-- The quotients by the step are rounded without harm: the factors are not moved by the ends of 64
bits into the range, and a quotient that is whole as a double is whole. -/
structure Faithful (min max step : Float) : Prop where
  low : exact (min / step) ≤ point maxInt64
  high : point minInt64 ≤ exact (max / step)
  whole_low : ∀ k, exact (min / step) = point k → toRat min = k * toRat step
  whole_high : ∀ k, exact (max / step) = point k → toRat max = k * toRat step

section

variable {min max step : Float}

section Factors

variable {x : Float}

/-- Only from above does the conversion to 64 bits make an integer smaller. -/
theorem exact_le_ofInt_toInt64 (hx : Integral x) (h : exact x ≤ point maxInt64) :
    exact x ≤ exact (Float.ofInt (toInt64 x)) := by
  cases hx with
  | infinity s hs =>
      rw [exact_eq_place, hs] at h ⊢
      cases s with
      | positive => exact absurd h (not_le.mpr (WithBot.coe_lt_coe.mpr (WithTop.coe_lt_top _)))
      | negative => exact bot_le
  | whole n hn =>
      rw [hn.exact_eq, point, WithBot.coe_le_coe, WithTop.coe_le_coe, Int.cast_le] at h
      refine exact_le_exact hn.rounds (rounds_ofInt _) ?_
      rw [toInt64_of_stands hn, clampInt64, min_eq_right h]
      exact_mod_cast le_max_right _ _

theorem ofInt_toInt64_le_exact (hx : Integral x) (h : point minInt64 ≤ exact x) :
    exact (Float.ofInt (toInt64 x)) ≤ exact x := by
  cases hx with
  | infinity s hs =>
      rw [exact_eq_place x, hs] at h ⊢
      cases s with
      | positive => exact le_top
      | negative => exact absurd h (not_le.mpr (WithBot.bot_lt_coe _))
  | whole n hn =>
      rw [hn.exact_eq, point, WithBot.coe_le_coe, WithTop.coe_le_coe, Int.cast_le] at h
      refine exact_le_exact (rounds_ofInt _) hn.rounds ?_
      have hle : clampInt64 n ≤ n := max_le h (min_le_right _ _)
      rw [toInt64_of_stands hn]
      exact_mod_cast hle

end Factors

theorem isFinite_ofInt {n : ℤ} (hn : |n| ≤ 2 ^ 63) : (Float.ofInt n).isFinite = true :=
  isFinite_of_isWhole (isWhole_ofInt hn)

theorem rounds_multiple {n : ℤ} (hn : |n| ≤ 2 ^ 63) (hstep : step.isFinite = true) :
    Rounds (toRat (Float.ofInt n) * toRat step) (Float.ofInt n * step).toModel.unpack :=
  rounds_mul (stands_toRat (isFinite_ofInt hn)) (stands_toRat hstep)

/-- Larger factors give larger multiples. -/
theorem exact_multiple_mono {m n : ℤ} (hm : |m| ≤ 2 ^ 63) (hn : |n| ≤ 2 ^ 63) (hmn : m ≤ n)
    (hstep : step.isFinite = true) (hpos : 0 < step) :
    exact (Float.ofInt m * step) ≤ exact (Float.ofInt n * step) := by
  refine exact_le_exact (rounds_multiple hm hstep) (rounds_multiple hn hstep) ?_
  have hle : exact (Float.ofInt m) ≤ exact (Float.ofInt n) :=
    exact_le_exact (rounds_ofInt m) (rounds_ofInt n) (by exact_mod_cast hmn)
  rw [exact_eq_toRat (isFinite_ofInt hm), exact_eq_toRat (isFinite_ofInt hn), WithBot.coe_le_coe,
    WithTop.coe_le_coe] at hle
  exact mul_le_mul_of_nonneg_right hle ((toRat_pos hstep).mpr hpos).le

theorem rounds_quotient {x : Float} (hx : x.isFinite = true) (hstep : step.isFinite = true)
    (hpos : 0 < step) : Rounds (toRat x / toRat step) (x / step).toModel.unpack :=
  rounds_div (stands_toRat hx) (stands_toRat hstep) ((toRat_pos hstep).mpr hpos).ne'

/-- A factor that a rounded quotient lies at is the quotient. -/
theorem eq_mul_of_exact_eq {x bound : Float} {n : ℤ} (hn : |n| ≤ 2 ^ 63)
    (hwhole : ∀ k, exact x = point k → toRat bound = k * toRat step)
    (h : exact x = exact (Float.ofInt n)) :
    toRat bound = toRat (Float.ofInt n) * toRat step := by
  obtain ⟨k, hk⟩ := exists_stands_of_isWhole (isWhole_ofInt hn)
  have hvalue : toRat (Float.ofInt n) = k := hk.value_eq
  rw [hvalue]
  exact hwhole k (h.trans hk.exact_eq)

/-- The multiple of the least factor is not below a range that is divided faithfully. -/
theorem Faithful.le_least (h : Faithful min max step) (hmin : min.isFinite = true)
    (hstep : step.isFinite = true) (hpos : 0 < step) :
    exact min ≤ exact (Float.ofInt (leastFactor min step) * step) := by
  have hquotient := rounds_quotient hmin hstep hpos
  have hnan : (min / step).isNaN = false := hquotient.isNaN
  have hfactor : |leastFactor min step| ≤ 2 ^ 63 := abs_toInt64_le _
  have hle : exact (min / step) ≤ exact (Float.ofInt (leastFactor min step)) :=
    (exact_le_ceil hnan).trans
      (exact_le_ofInt_toInt64 (integral_ceil hnan) (exact_ceil_le_point hnan h.low))
  have hpos' := (toRat_pos hstep).mpr hpos
  refine exact_le_exact (rounds_toRat hmin) (rounds_multiple hfactor hstep) ?_
  by_contra hlt
  -- a factor below the quotient is what the quotient was rounded to
  have hlt' := (lt_div_iff₀ hpos').mpr (not_le.mp hlt)
  have hback := exact_le_exact (rounds_toRat (isFinite_ofInt hfactor)) hquotient hlt'.le
  exact hlt (eq_mul_of_exact_eq hfactor h.whole_low (le_antisymm hle hback)).le

/-- The multiple of the largest factor is not above a range that is divided faithfully. -/
theorem Faithful.largest_le (h : Faithful min max step) (hmax : max.isFinite = true)
    (hstep : step.isFinite = true) (hpos : 0 < step) :
    exact (Float.ofInt (largestFactor max step) * step) ≤ exact max := by
  have hquotient := rounds_quotient hmax hstep hpos
  have hnan : (max / step).isNaN = false := hquotient.isNaN
  have hfactor : |largestFactor max step| ≤ 2 ^ 63 := abs_toInt64_le _
  have hle : exact (Float.ofInt (largestFactor max step)) ≤ exact (max / step) :=
    (ofInt_toInt64_le_exact (integral_floor hnan) (point_le_exact_floor hnan h.high)).trans
      (exact_floor_le hnan)
  have hpos' := (toRat_pos hstep).mpr hpos
  refine exact_le_exact (rounds_multiple hfactor hstep) (rounds_toRat hmax) ?_
  by_contra hlt
  have hlt' := (div_lt_iff₀ hpos').mpr (not_le.mp hlt)
  have hback := exact_le_exact hquotient (rounds_toRat (isFinite_ofInt hfactor)) hlt'.le
  exact hlt (eq_mul_of_exact_eq hfactor h.whole_high (le_antisymm hback hle)).ge

/-! ## What is drawn -/

/-- An integer is drawn from its range. -/
theorem always_int_mem {low high : ℤ} (h : low ≤ high) :
    (Draw.int low high).Always fun n => low ≤ n ∧ n ≤ high := by
  refine (Draw.always_below (Nat.succ_pos _)).bind fun n hn => Draw.always_pure ?_
  omega

/-- The value is one that may be drawn: that of a factor from the least to the largest one. -/
def Drawable (min max step : Float) (v : Json) : Prop :=
  ∃ factor, leastFactor min step ≤ factor ∧ factor ≤ largestFactor max step ∧
    v = multipleJson factor step

/-- The multiples of the least and the largest factor lie in the range. -/
def EndsWithin (min max step : Float) : Prop :=
  min ≤ Float.ofInt (leastFactor min step) * step ∧
    Float.ofInt (largestFactor max step) * step ≤ max

/-- No multiple is given only where there is none, and any other outcome may be drawn. -/
theorem multiple_cases (hmin : min.isFinite = true) (hmax : max.isFinite = true)
    (hstep : step.isFinite = true) (hpos : 0 < step) (s : Seed) :
    (multiple min max step s).1 = .error (.emptyRange min max step) ∧ ¬ HasMultiple min max step ∨
      leastFactor min step ≤ largestFactor max step ∧
        ∃ v, (multiple min max step s).1 = .ok v ∧ Drawable min max step v := by
  have hlow := rounds_quotient hmin hstep hpos
  have hhigh := rounds_quotient hmax hstep hpos
  have hlow' := integral_ceil hlow.isNaN
  have hhigh' := integral_floor hhigh.isNaN
  have hpos' := (toRat_pos hstep).mpr hpos
  have hgt : ceil (min / step) > floor (max / step) ↔
      exact (floor (max / step)) < exact (ceil (min / step)) :=
    lt_iff_exact hhigh'.isNaN hlow'.isNaN
  unfold multiple
  rw [if_pos (show step > 0 from hpos)]
  split
  next hempty =>
    refine .inl ⟨rfl, ?_⟩
    rintro ⟨k, hk, hk'⟩
    -- rounding keeps an integer between both quotients between the rounded ones
    have hmin' := exact_le_exact hlow (rounds_ofInt k) ((div_le_iff₀ hpos').mpr hk)
    have hmax' := exact_le_exact (rounds_ofInt k) hhigh ((le_div_iff₀ hpos').mpr hk')
    have hle := (exact_ceil_le hlow.isNaN (integral_ofInt k) hmin').trans
      (le_exact_floor hhigh.isNaN (integral_ofInt k) hmax')
    exact absurd (hgt.mp hempty) (not_lt.mpr hle)
  next hsome =>
    have hle : leastFactor min step ≤ largestFactor max step :=
      toInt64_mono hlow' hhigh' (not_lt.mp fun h => hsome (hgt.mpr h))
    have hdraw := always_int_mem hle s
    exact .inr ⟨hle, _, rfl, _, hdraw.1, hdraw.2, rfl⟩

/-- What may be drawn lies in the range just when the ends do. -/
theorem drawable_within_iff (hmin : min.isFinite = true) (hmax : max.isFinite = true)
    (hstep : step.isFinite = true) (hpos : 0 < step)
    (hle : leastFactor min step ≤ largestFactor max step) :
    (∀ v, Drawable min max step v → v.Within (toRat min) (toRat max)) ↔
      EndsWithin min max step := by
  have hnan (n : ℤ) (hn : |n| ≤ 2 ^ 63) : (Float.ofInt n * step).isNaN = false :=
    (rounds_multiple hn hstep).isNaN
  have hleast : |leastFactor min step| ≤ 2 ^ 63 := abs_toInt64_le _
  have hlargest : |largestFactor max step| ≤ 2 ^ 63 := abs_toInt64_le _
  rw [EndsWithin, le_iff_exact (isNaN_of_isFinite hmin) (hnan _ hleast),
    le_iff_exact (hnan _ hlargest) (isNaN_of_isFinite hmax), exact_eq_toRat hmin,
    exact_eq_toRat hmax]
  constructor
  · intro h
    exact ⟨((within_numberJson_iff (hnan _ hleast)).mp (h _ ⟨_, le_rfl, hle, rfl⟩)).1,
      ((within_numberJson_iff (hnan _ hlargest)).mp (h _ ⟨_, hle, le_rfl, rfl⟩)).2⟩
  · rintro ⟨hlow, hhigh⟩ v ⟨factor, hfirst, hlast, rfl⟩
    have hfactor : |factor| ≤ 2 ^ 63 :=
      abs_le.mpr ⟨(abs_le.mp hleast).1.trans hfirst, hlast.trans (abs_le.mp hlargest).2⟩
    refine (within_numberJson_iff (hnan _ hfactor)).mpr ⟨?_, ?_⟩
    · exact hlow.trans (exact_multiple_mono hleast hfactor hfirst hstep hpos)
    · exact (exact_multiple_mono hfactor hlargest hlast hstep hpos).trans hhigh

theorem Faithful.endsWithin (h : Faithful min max step) (hmin : min.isFinite = true)
    (hmax : max.isFinite = true) (hstep : step.isFinite = true) (hpos : 0 < step) :
    EndsWithin min max step :=
  ⟨(le_iff_exact (isNaN_of_isFinite hmin) (rounds_multiple (abs_toInt64_le _) hstep).isNaN).mpr
      (h.le_least hmin hstep hpos),
    (le_iff_exact (rounds_multiple (abs_toInt64_le _) hstep).isNaN (isNaN_of_isFinite hmax)).mpr
      (h.largest_le hmax hstep hpos)⟩

/-- The outcome is a number of the range, or an empty range where no multiple lies in it. -/
def InRange (min max step : Float) (outcome : Except MockError Json) : Prop :=
  outcome = .error (.emptyRange min max step) ∧ ¬ HasMultiple min max step ∨
    ∃ v, outcome = .ok v ∧ v.Within (toRat min) (toRat max)

/-- An empty range is reported only where no multiple lies in the range. Otherwise the multiple of
an integer factor is drawn, and all that may be drawn are numbers of the range just when those of
the least and the largest factor are. That is so where the quotients of the bounds by the step are
rounded faithfully. -/
theorem generate_number_inRange (hmin : min.isFinite = true) (hmax : max.isFinite = true)
    (hstep : step.isFinite = true) (hpos : 0 < step) (now : Moment) :
    (∀ s,
      ((generator now).generate (.number min max step) s).1 = .error (.emptyRange min max step) ∧
          ¬ HasMultiple min max step ∨
        ∃ v, ((generator now).generate (.number min max step) s).1 = .ok v ∧
          Drawable min max step v) ∧
    ((∀ v, Drawable min max step v → v.Within (toRat min) (toRat max)) ↔
      (leastFactor min step ≤ largestFactor max step → EndsWithin min max step)) ∧
    (Faithful min max step →
      ∀ s, InRange min max step ((generator now).generate (.number min max step) s).1) := by
  have hcases := multiple_cases hmin hmax hstep hpos
  refine ⟨fun s => (hcases s).imp_right And.right, ⟨fun h hle => ?_, fun h v hv => ?_⟩, ?_⟩
  · exact (drawable_within_iff hmin hmax hstep hpos hle).mp h
  · obtain ⟨factor, hfirst, hlast, -⟩ := id hv
    have hle := hfirst.trans hlast
    exact (drawable_within_iff hmin hmax hstep hpos hle).mpr (h hle) v hv
  · intro h s
    refine (hcases s).imp_right ?_
    rintro ⟨hle, v, hv, hdrawable⟩
    have hends := h.endsWithin hmin hmax hstep hpos
    exact ⟨v, hv, (drawable_within_iff hmin hmax hstep hpos hle).mpr hends v hdrawable⟩

end

/-- The quotients of five and twenty by two and a half are the doubles two and eight. -/
theorem faithful_five_twenty : Faithful 5 20 2.5 := by
  have hmin : toRat 5 = 5 :=
    toRat_of_parts (p := ⟨false, 5 * 2 ^ 50, -50⟩) rfl (by norm_num [Parts.signed])
  have hmax : toRat 20 = 20 :=
    toRat_of_parts (p := ⟨false, 5 * 2 ^ 50, -48⟩) rfl (by norm_num [Parts.signed])
  have hstep : toRat 2.5 = 5 / 2 :=
    toRat_of_parts (p := ⟨false, 5 * 2 ^ 50, -51⟩) rfl (by norm_num [Parts.signed])
  have hlow : exact (5 / 2.5) = point 2 := by
    rw [exact_eq_toRat (by decide),
      toRat_of_parts (p := ⟨false, 2 ^ 52, -51⟩) (q := 2) rfl (by norm_num [Parts.signed])]
    rfl
  have hhigh : exact (20 / 2.5) = point 8 := by
    rw [exact_eq_toRat (by decide),
      toRat_of_parts (p := ⟨false, 2 ^ 52, -49⟩) (q := 8) rfl (by norm_num [Parts.signed])]
    rfl
  refine ⟨?_, ?_, fun k hk => ?_, fun k hk => ?_⟩
  · rw [hlow, point_le_point]
    decide
  · rw [hhigh, point_le_point]
    decide
  · obtain rfl := point_injective (hlow.symm.trans hk)
    rw [hmin, hstep]
    norm_num
  · obtain rfl := point_injective (hhigh.symm.trans hk)
    rw [hmax, hstep]
    norm_num

theorem generate_five_twenty_inRange :
    Faithful 5 20 2.5 ∧
      ∀ now s, InRange 5 20 2.5 ((generator now).generate (.number 5 20 2.5) s).1 :=
  ⟨faithful_five_twenty, fun now =>
    (generate_number_inRange (by decide) (by decide) (by decide) (by decide) now).2.2
      faithful_five_twenty⟩

/-- Beyond 64 bits the conversion moves both factors below the range. -/
theorem exists_generate_number_not_inRange : ∃ min max step : Float,
    min.isFinite = true ∧ max.isFinite = true ∧ step.isFinite = true ∧ 0 < step ∧ min ≤ max ∧
      ∀ now s, ¬ InRange min max step ((generator now).generate (.number min max step) s).1 := by
  refine ⟨1e19, 2e19, 1, by decide, by decide, by decide, by decide, by decide, fun now s => ?_⟩
  have hmin : toRat 1e19 = 10 ^ 19 :=
    toRat_of_parts (p := ⟨false, 5 ^ 19 * 2 ^ 8, 11⟩) rfl (by norm_num [Parts.signed])
  have hmax : toRat 2e19 = 2 * 10 ^ 19 :=
    toRat_of_parts (p := ⟨false, 5 ^ 19 * 2 ^ 8, 12⟩) rfl (by norm_num [Parts.signed])
  have hone : toRat 1 = 1 :=
    toRat_of_parts (p := ⟨false, 2 ^ 52, -52⟩) rfl (by norm_num [Parts.signed])
  have hleast : leastFactor 1e19 1 = maxInt64 := by decide +kernel
  have hlargest : largestFactor 2e19 1 = maxInt64 := by decide +kernel
  have hmultiple : HasMultiple 1e19 2e19 1 := by
    refine ⟨10 ^ 19, ?_, ?_⟩ <;> simp only [hmin, hmax, hone] <;> norm_num
  have hlow : (1e19 : Float).isFinite = true := by decide
  have hhigh : (2e19 : Float).isFinite = true := by decide
  have hunit : (1 : Float).isFinite = true := by decide
  obtain ⟨-, v, hv, factor, hfirst, hlast, rfl⟩ :=
    (multiple_cases hlow hhigh hunit (by decide) s).resolve_left fun h => h.2 hmultiple
  rw [hleast] at hfirst
  rw [hlargest] at hlast
  obtain rfl := le_antisymm hlast hfirst
  have hbelow : exact (Float.ofInt maxInt64 * 1) < exact 1e19 :=
    (lt_iff_exact (by decide +kernel) (by decide)).mp (by decide +kernel)
  rintro (⟨-, hnone⟩ | ⟨w, hw, hwithin⟩)
  · exact hnone hmultiple
  · obtain rfl := Except.ok.inj (hv.symm.trans hw)
    have hlow := ((within_numberJson_iff (by decide +kernel)).mp hwithin).1
    rw [← exact_eq_toRat (by decide)] at hlow
    exact absurd hbelow (not_lt.mpr hlow)

end Sample

end MockApi
