import MockApi.Proofs.Number.Rounds

/-! # Doubles and integers

Rounding up and rounding down give the ceiling and the floor of the number of a double, and a
conversion to 64 bits stops at the ends of the range. An integer that is a double is converted to
that double.
-/

namespace MockApi.Double

open Float.Model
open UnpackedFloat (Sign)

/-- The number of a finite double. -/
def toRat (x : Float) : ℚ := value x.toModel.unpack

section

variable {x y : Float} {p q : ℚ} {u : UnpackedFloat}

theorem stands_toRat (hx : x.isFinite = true) : Stands x.toModel.unpack (toRat x) :=
  stands_unpack hx

theorem exact_eq_toRat (hx : x.isFinite = true) : exact x = ((toRat x : ℚ) : WithTop ℚ) :=
  (stands_toRat hx).exact_eq

theorem toRat_lt_toRat (hx : x.isFinite = true) (hy : y.isFinite = true) :
    toRat x < toRat y ↔ x < y := by
  rw [lt_iff_exact (isNaN_of_isFinite hx) (isNaN_of_isFinite hy), exact_eq_toRat hx,
    exact_eq_toRat hy, WithBot.coe_lt_coe, WithTop.coe_lt_coe]

theorem toRat_pos (hx : x.isFinite = true) : 0 < toRat x ↔ 0 < x := by
  have hzero : (0 : Float).isFinite = true := by decide
  rw [← toRat_lt_toRat hzero hx]
  rfl

/-- A double between two numbers is finite. -/
theorem isFinite_of_exact (hx : x.isNaN = false) (hlow : ((p : ℚ) : WithTop ℚ) ≤ exact x)
    (hhigh : exact x ≤ ((q : ℚ) : WithTop ℚ)) : x.isFinite = true := by
  refine (isFinite_or_infinity hx).resolve_right ?_
  rintro ⟨s, hs⟩
  rw [exact_eq_place, hs] at hlow hhigh
  cases s with
  | positive => exact absurd hhigh (not_le.mpr (WithBot.coe_lt_coe.mpr (WithTop.coe_lt_top q)))
  | negative => exact absurd hlow (not_le.mpr (WithBot.bot_lt_coe _))

/-- A number that is a double is rounded to itself. -/
theorem Rounds.stands (h : Rounds q x.toModel.unpack) (hu : Stands u q) :
    Stands x.toModel.unpack q := by
  have hplace : place u = ((q : ℚ) : WithTop ℚ) := by
    rw [place_of_isFinite hu.isFinite, hu.value_eq]
  have hexact : exact x = ((q : ℚ) : WithTop ℚ) := by
    rw [exact_eq_place, ← hplace]
    exact le_antisymm (h.mono hu.rounds le_rfl) (hu.rounds.mono h le_rfl)
  have hfinite := isFinite_of_exact h.isNaN hexact.ge hexact.le
  rw [exact_eq_toRat hfinite, WithBot.coe_inj, WithTop.coe_inj] at hexact
  exact hexact ▸ stands_toRat hfinite

theorem rounds_toRat (hx : x.isFinite = true) : Rounds (toRat x) x.toModel.unpack :=
  (stands_toRat hx).rounds

theorem exact_le_exact (hx : Rounds p x.toModel.unpack) (hy : Rounds q y.toModel.unpack)
    (h : p ≤ q) : exact x ≤ exact y := by
  rw [exact_eq_place, exact_eq_place]
  exact hx.mono hy h

theorem Rounds.toRat_mono (hp : Rounds p x.toModel.unpack) (hq : Rounds q y.toModel.unpack)
    (hx : x.isFinite = true) (hy : y.isFinite = true) (h : p ≤ q) : toRat x ≤ toRat y := by
  have hle := exact_le_exact hp hq h
  rwa [exact_eq_toRat hx, exact_eq_toRat hy, WithBot.coe_le_coe, WithTop.coe_le_coe] at hle

theorem toRat_of_parts {p : Parts} (h : parts? x = some p)
    (hq : (p.signed * 2 ^ p.exponent : ℚ) = q) : toRat x = q :=
  (stands_of_parts h).value_eq.trans hq

/-- Integers of up to 53 bits are doubles. -/
theorem stands_ofInt_of_abs_lt {n : ℤ} (hn : |n| < 2 ^ 53) :
    Stands (Float.ofInt n).toModel.unpack n := by
  have hnat : n.natAbs < 2 ^ 53 := by
    rw [Int.abs_eq_natAbs] at hn
    exact_mod_cast hn
  have habs := stands_toFloat_natCast hnat
  rcases le_total 0 n with hsign | hsign
  · have hcast : ((n.natAbs : ℕ) : ℚ) = n := by
      rw [Nat.cast_natAbs, abs_of_nonneg hsign]
    exact (rounds_ofInt n).stands (hcast ▸ habs)
  · have hcast : -((n.natAbs : ℕ) : ℚ) = n := by
      rw [Nat.cast_natAbs, abs_of_nonpos hsign]
      push_cast
      exact neg_neg _
    exact (rounds_ofInt n).stands (hcast ▸ habs.neg)

/-- A natural number of up to 53 bits is a double. -/
theorem stands_ofNat_of_lt {n : ℕ} (hn : n < 2 ^ 53) : Stands (Float.ofNat n).toModel.unpack n :=
  (rounds_ofNat n).stands (stands_toFloat_natCast hn)

/-- Rounding keeps a number between zero and a natural number there. -/
theorem Rounds.bounds (h : Rounds q x.toModel.unpack) {n : ℕ} (hn : n < 2 ^ 53) (hlow : 0 ≤ q)
    (hhigh : q ≤ n) : x.isFinite = true ∧ 0 ≤ toRat x ∧ toRat x ≤ n := by
  have hzero : Stands (Float.ofNat 0).toModel.unpack 0 := stands_ofNat_of_lt (by decide)
  have hmax := stands_ofNat_of_lt hn
  have hlow' := exact_le_exact hzero.rounds h hlow
  have hhigh' := exact_le_exact h hmax.rounds hhigh
  rw [hzero.exact_eq] at hlow'
  rw [hmax.exact_eq] at hhigh'
  have hfinite := isFinite_of_exact h.isNaN hlow' hhigh'
  rw [exact_eq_toRat hfinite, WithBot.coe_le_coe, WithTop.coe_le_coe] at hlow' hhigh'
  exact ⟨hfinite, hlow', hhigh'⟩

end

/-! ## The ceiling and the floor -/

section

variable {x : Float} {q : ℚ}

theorem exists_parts (h : Stands x.toModel.unpack q) :
    ∃ p, parts? x = some p ∧ q = p.signed * 2 ^ p.exponent ∧ p.mantissa < 2 ^ 53 := by
  obtain ⟨hcanonical, hfinite, rfl⟩ := h
  rw [parts?_eq]
  generalize x.toModel.unpack = u at *
  cases hcanonical with
  | zero s =>
      refine ⟨_, rfl, ?_, by norm_num⟩
      rw [signed_mk]
      cases s <;> simp [value, Sign.apply]
  | finite s hm size =>
      refine ⟨_, rfl, ?_, size⟩
      rw [signed_mk]
      rfl
  | _ => cases hfinite

/-- With a negative exponent the number is a fraction over a power of two. -/
theorem Parts.value_eq_div {p : Parts} (hp : p.exponent < 0) :
    (p.signed * 2 ^ p.exponent : ℚ) = p.signed / (twoTo (-p.exponent).toNat : ℕ) := by
  obtain ⟨k, hk⟩ := Int.eq_ofNat_of_zero_le (neg_nonneg.mpr hp.le)
  have hexponent : p.exponent = -k := by omega
  rw [hk, Int.toNat_natCast, hexponent, zpow_neg, zpow_natCast, twoTo, Nat.pow_eq]
  push_cast
  exact (div_eq_mul_inv _ _).symm

theorem abs_floor_le {n : ℤ} (h : |q| ≤ n) : |⌊q⌋| ≤ n := by
  obtain ⟨hlow, hhigh⟩ := abs_le.mp h
  have hle : (⌊q⌋ : ℚ) ≤ n := (Int.floor_le q).trans hhigh
  exact abs_le.mpr ⟨Int.le_floor.mpr (by exact_mod_cast hlow), by exact_mod_cast hle⟩

theorem abs_signed_div_le (p : Parts) {d : ℕ} (hd : 0 < d) :
    |(p.signed / d : ℚ)| ≤ (p.mantissa : ℤ) := by
  have hd' : (1 : ℚ) ≤ d := by exact_mod_cast hd
  have habs : |(p.signed : ℚ)| = p.mantissa := by
    rw [← Int.cast_abs, Int.abs_eq_natAbs, natAbs_signed, Int.cast_natCast]
  rw [abs_div, habs, Nat.abs_cast, Int.cast_natCast]
  exact div_le_self (Nat.cast_nonneg _) hd'

/-- Rounding down gives the floor. -/
theorem stands_floor (h : Stands x.toModel.unpack q) :
    Stands (floor x).toModel.unpack (⌊q⌋ : ℤ) := by
  obtain ⟨p, hparts, hq, hsize⟩ := exists_parts h
  rw [floor, hparts]
  dsimp only
  split
  next hp =>
    -- without places after the point the number is an integer
    obtain ⟨n, hn⟩ := (exists_int_eq_iff p.signed p.exponent).mpr (.inl hp)
    obtain rfl := hq.trans hn
    rwa [Int.floor_intCast]
  next hp =>
    have hpos : 0 < twoTo (-p.exponent).toNat := Nat.two_pow_pos _
    rw [Parts.value_eq_div (not_le.mp hp)] at hq
    have hfloor : p.signed.fdiv (twoTo (-p.exponent).toNat) = ⌊q⌋ := by
      rw [Int.fdiv_eq_ediv_of_nonneg _ (Int.natCast_nonneg _), hq, Rat.floor_intCast_div_natCast]
    rw [hfloor]
    refine stands_ofInt_of_abs_lt ((abs_floor_le (hq ▸ abs_signed_div_le p hpos)).trans_lt ?_)
    exact_mod_cast hsize

/-- Rounding up gives the ceiling. -/
theorem stands_ceil (h : Stands x.toModel.unpack q) :
    Stands (ceil x).toModel.unpack (⌈q⌉ : ℤ) := by
  obtain ⟨p, hparts, hq, hsize⟩ := exists_parts h
  rw [ceil, hparts]
  dsimp only
  split
  next hp =>
    obtain ⟨n, hn⟩ := (exists_int_eq_iff p.signed p.exponent).mpr (.inl hp)
    obtain rfl := hq.trans hn
    rwa [Int.ceil_intCast]
  next hp =>
    have hpos : 0 < twoTo (-p.exponent).toNat := Nat.two_pow_pos _
    rw [Parts.value_eq_div (not_le.mp hp)] at hq
    have hceil : (-p.signed).fdiv (twoTo (-p.exponent).toNat) = ⌊-q⌋ := by
      rw [Int.fdiv_eq_ediv_of_nonneg _ (Int.natCast_nonneg _), hq, ← neg_div, ← Int.cast_neg,
        Rat.floor_intCast_div_natCast]
    have habs : |⌊-q⌋| ≤ (p.mantissa : ℤ) :=
      abs_floor_le (by rw [abs_neg, hq]; exact abs_signed_div_le p hpos)
    rw [Int.floor_neg, abs_neg] at habs
    rw [hceil, Int.floor_neg, neg_neg]
    refine stands_ofInt_of_abs_lt (habs.trans_lt ?_)
    exact_mod_cast hsize

theorem parts?_of_infinity {s : Sign} (h : x.toModel.unpack = .infinity s) : parts? x = none := by
  rw [parts?_eq, h]
  rfl

theorem floor_of_infinity {s : Sign} (h : x.toModel.unpack = .infinity s) : floor x = x := by
  rw [floor, parts?_of_infinity h]

theorem ceil_of_infinity {s : Sign} (h : x.toModel.unpack = .infinity s) : ceil x = x := by
  rw [ceil, parts?_of_infinity h]

end

/-! ## Conversion to 64 bits -/

/-- An infinity, or a whole double. -/
inductive Integral (x : Float) : Prop
  | infinity (s) (h : x.toModel.unpack = .infinity s)
  | whole (n : ℤ) (h : Stands x.toModel.unpack n)

theorem Integral.isNaN {x : Float} (h : Integral x) : x.isNaN = false := by
  cases h with
  | infinity s h => rw [isNaN_eq, h]; rfl
  | whole n h => exact isNaN_of_isFinite h.isFinite

/-- The integer moved into the range of 64 bits. -/
def clampInt64 (n : ℤ) : ℤ := max minInt64 (min maxInt64 n)

section

variable {x y : Float} {n : ℤ}

theorem truncate_of_value {p : Parts} (h : (p.signed * 2 ^ p.exponent : ℚ) = n) :
    p.truncate = n := by
  unfold Parts.truncate
  split
  next hp =>
    obtain ⟨k, hk⟩ := Int.eq_ofNat_of_zero_le hp
    rw [hk, zpow_natCast] at h
    rw [hk, Int.toNat_natCast, twoTo, Nat.pow_eq]
    exact_mod_cast h
  next hp =>
    have hpos : 0 < twoTo (-p.exponent).toNat := Nat.two_pow_pos _
    have hpos' : (0 : ℚ) < (twoTo (-p.exponent).toNat : ℕ) := by exact_mod_cast hpos
    rw [Parts.value_eq_div (not_le.mp hp), div_eq_iff hpos'.ne'] at h
    have hsigned : p.signed = n * (twoTo (-p.exponent).toNat : ℕ) := by exact_mod_cast h
    rw [hsigned]
    exact Int.mul_tdiv_cancel _ (by omega)

theorem toInt64_of_stands (h : Stands x.toModel.unpack n) : toInt64 x = clampInt64 n := by
  obtain ⟨p, hparts, hvalue, -⟩ := exists_parts h
  rw [toInt64, clampTo, hparts, clampInt64, ← truncate_of_value hvalue.symm]

theorem toNat64_of_stands (h : Stands x.toModel.unpack n) :
    toNat64 x = (max 0 (min (maxNat64 : ℤ) n)).toNat := by
  obtain ⟨p, hparts, hvalue, -⟩ := exists_parts h
  rw [toNat64, clampTo, hparts, ← truncate_of_value hvalue.symm]

theorem toInt64_of_top (h : x.toModel.unpack = .infinity .positive) : toInt64 x = maxInt64 := by
  have hpos : x > 0 := by
    rw [GT.gt, lt_eq, h]
    decide
  rw [toInt64, clampTo, parts?_of_infinity h]
  exact if_pos hpos

theorem toInt64_of_bot (h : x.toModel.unpack = .infinity .negative) : toInt64 x = minInt64 := by
  have hneg : x < 0 := by
    rw [lt_eq, h]
    decide
  have hpos : ¬ x > 0 := by
    rw [GT.gt, lt_eq, h]
    decide
  rw [toInt64, clampTo, parts?_of_infinity h]
  exact (if_neg hpos).trans (if_pos hneg)

theorem clampInt64_mem (n : ℤ) : minInt64 ≤ clampInt64 n ∧ clampInt64 n ≤ maxInt64 :=
  ⟨le_max_left _ _, max_le (by decide) (min_le_left _ _)⟩

theorem toInt64_mem (hx : Integral x) : minInt64 ≤ toInt64 x ∧ toInt64 x ≤ maxInt64 := by
  cases hx with
  | infinity s h =>
      cases s with
      | positive => rw [toInt64_of_top h]; decide
      | negative => rw [toInt64_of_bot h]; decide
  | whole n h =>
      rw [toInt64_of_stands h]
      exact clampInt64_mem n

/-- The conversion keeps the order. -/
theorem toInt64_mono (hx : Integral x) (hy : Integral y) (h : exact x ≤ exact y) :
    toInt64 x ≤ toInt64 y := by
  have hmem := toInt64_mem hx
  have hmem' := toInt64_mem hy
  cases hx with
  | infinity s hs =>
      cases s with
      | negative => exact (toInt64_of_bot hs).trans_le hmem'.1
      | positive =>
          cases hy with
          | infinity t ht =>
              cases t with
              | positive => rw [toInt64_of_top hs, toInt64_of_top ht]
              | negative =>
                  rw [exact_eq_place, exact_eq_place, hs, ht] at h
                  exact absurd h (by decide)
          | whole n hn =>
              rw [exact_eq_place, hs, hn.exact_eq] at h
              exact absurd h (not_le.mpr (WithBot.coe_lt_coe.mpr (WithTop.coe_lt_top _)))
  | whole m hm =>
      cases hy with
      | infinity t ht =>
          cases t with
          | positive => exact hmem.2.trans_eq (toInt64_of_top ht).symm
          | negative =>
              rw [exact_eq_place y, ht, hm.exact_eq] at h
              exact absurd h (not_le.mpr (WithBot.bot_lt_coe _))
      | whole n hn =>
          rw [hm.exact_eq, hn.exact_eq, WithBot.coe_le_coe, WithTop.coe_le_coe, Int.cast_le] at h
          rw [toInt64_of_stands hm, toInt64_of_stands hn]
          exact max_le_max le_rfl (min_le_min le_rfl h)

end

/-! ## Bounds of integers -/

section

variable {x : Float} {n : ℤ}

theorem integral_ceil (hx : x.isNaN = false) : Integral (ceil x) := by
  rcases isFinite_or_infinity hx with hfinite | ⟨s, hs⟩
  · exact .whole _ (stands_ceil (stands_toRat hfinite))
  · rw [ceil_of_infinity hs]
    exact .infinity s hs

theorem integral_floor (hx : x.isNaN = false) : Integral (floor x) := by
  rcases isFinite_or_infinity hx with hfinite | ⟨s, hs⟩
  · exact .whole _ (stands_floor (stands_toRat hfinite))
  · rw [floor_of_infinity hs]
    exact .infinity s hs

theorem exact_le_ceil (hx : x.isNaN = false) : exact x ≤ exact (ceil x) := by
  rcases isFinite_or_infinity hx with hfinite | ⟨s, hs⟩
  · rw [exact_eq_toRat hfinite, (stands_ceil (stands_toRat hfinite)).exact_eq, WithBot.coe_le_coe,
      WithTop.coe_le_coe]
    exact Int.le_ceil _
  · rw [ceil_of_infinity hs]

theorem exact_floor_le (hx : x.isNaN = false) : exact (floor x) ≤ exact x := by
  rcases isFinite_or_infinity hx with hfinite | ⟨s, hs⟩
  · rw [exact_eq_toRat hfinite, (stands_floor (stands_toRat hfinite)).exact_eq, WithBot.coe_le_coe,
      WithTop.coe_le_coe]
    exact Int.floor_le _
  · rw [floor_of_infinity hs]

theorem exact_ceil_le_point {n : ℤ} (hx : x.isNaN = false) (h : exact x ≤ point n) :
    exact (ceil x) ≤ point n := by
  rcases isFinite_or_infinity hx with hfinite | ⟨s, hs⟩
  · rw [exact_eq_toRat hfinite, point, WithBot.coe_le_coe, WithTop.coe_le_coe] at h
    rw [(stands_ceil (stands_toRat hfinite)).exact_eq, point, WithBot.coe_le_coe,
      WithTop.coe_le_coe]
    exact_mod_cast Int.ceil_le.mpr h
  · rwa [ceil_of_infinity hs]

theorem point_le_exact_floor {n : ℤ} (hx : x.isNaN = false) (h : point n ≤ exact x) :
    point n ≤ exact (floor x) := by
  rcases isFinite_or_infinity hx with hfinite | ⟨s, hs⟩
  · rw [exact_eq_toRat hfinite, point, WithBot.coe_le_coe, WithTop.coe_le_coe] at h
    rw [(stands_floor (stands_toRat hfinite)).exact_eq, point, WithBot.coe_le_coe,
      WithTop.coe_le_coe]
    exact_mod_cast Int.le_floor.mpr h
  · rwa [floor_of_infinity hs]

/-- The ceiling is the least whole double that is not below. -/
theorem exact_ceil_le {y : Float} (hx : x.isNaN = false) (hy : Integral y)
    (h : exact x ≤ exact y) : exact (ceil x) ≤ exact y := by
  cases hy with
  | whole n hn =>
      rw [hn.exact_eq] at h ⊢
      exact exact_ceil_le_point hx h
  | infinity t ht =>
      rw [exact_eq_place y, ht] at h ⊢
      cases t with
      | positive => exact le_top
      | negative =>
          rcases isFinite_or_infinity hx with hfinite | ⟨s, hs⟩
          · rw [exact_eq_toRat hfinite] at h
            exact absurd h (not_le.mpr (WithBot.bot_lt_coe _))
          · rwa [ceil_of_infinity hs]

/-- The floor is the greatest whole double that is not above. -/
theorem le_exact_floor {y : Float} (hx : x.isNaN = false) (hy : Integral y)
    (h : exact y ≤ exact x) : exact y ≤ exact (floor x) := by
  cases hy with
  | whole n hn =>
      rw [hn.exact_eq] at h ⊢
      exact point_le_exact_floor hx h
  | infinity t ht =>
      rw [exact_eq_place y, ht] at h ⊢
      cases t with
      | negative => exact bot_le
      | positive =>
          rcases isFinite_or_infinity hx with hfinite | ⟨s, hs⟩
          · rw [exact_eq_toRat hfinite] at h
            exact absurd h (not_le.mpr (WithBot.coe_lt_coe.mpr (WithTop.coe_lt_top _)))
          · rwa [floor_of_infinity hs]

end

/-- An integer becomes a whole double or an infinity. -/
theorem integral_ofInt (n : ℤ) : Integral (Float.ofInt n) := by
  obtain ⟨s, p, r, t, hn, hr, hunpack⟩ := rounds_ofInt n
  have hp : p = n.natAbs := by
    have habs : |(n : ℚ)| = p := by
      rw [hn, abs_mul, abs_of_nonneg hr.nonneg]
      cases s <;> simp [factor]
    rw [← habs, Nat.cast_natAbs, Int.cast_abs]
  obtain ⟨k, hk⟩ := hr.neighbour.exists_natCast hp
  rcases hr.neighbour.stands_or_infinity s with hstands | ⟨hinfinity, -⟩
  · rw [apply_mul_two_pow s hk, ← hunpack] at hstands
    exact .whole _ hstands
  · exact .infinity s (hunpack.trans hinfinity)

end MockApi.Double
