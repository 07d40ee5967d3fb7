import MockApi.Proofs.Number.Nearest

/-! # Results as rounded exact numbers

A product, a quotient, an integer and a decimal become the double nearest to the exact number, or an
infinity beyond the doubles. What the rounded results of two exact numbers are is in the order of
these numbers, and a double is the rounded result of the number that it stands for.
-/

namespace MockApi.Double

open Float.Model
open UnpackedFloat (ExtendedMantissa Sign)

/-! ## Numbers out of range -/

theorem two_zpow_pos (n : ℤ) : (0 : ℚ) < 2 ^ n := zpow_pos (by norm_num) n

/-- The point of a number that is rounded to a grid without a largest exponent: an infinity from
two to the power of 1024 on. -/
def clip (v : ℚ) : WithBot (WithTop ℚ) :=
  if (2 : ℚ) ^ (1024 : ℤ) ≤ v then ⊤ else if v ≤ -2 ^ (1024 : ℤ) then ⊥ else ((v : ℚ) : WithTop ℚ)

theorem clip_of_abs_lt {v : ℚ} (h : |v| < 2 ^ (1024 : ℤ)) : clip v = ((v : ℚ) : WithTop ℚ) := by
  obtain ⟨hlow, hhigh⟩ := abs_lt.mp h
  rw [clip, if_neg (not_le.mpr hhigh), if_neg (not_le.mpr hlow)]

theorem clip_mono {v w : ℚ} (h : v ≤ w) : clip v ≤ clip w := by
  unfold clip
  split
  next hv => rw [if_pos (hv.trans h)]
  next =>
    split
    next => exact bot_le
    next hv =>
      split
      next => exact le_top
      next =>
        rw [if_neg fun hw => hv (h.trans hw)]
        exact WithBot.coe_le_coe.mpr (WithTop.coe_le_coe.mpr h)

/-! ## Rounded results -/

/-- One with the sign. -/
def factor : Sign → ℚ
  | .positive => 1
  | .negative => -1

theorem apply_eq_factor_mul (s : Sign) (n : ℕ) : (s.apply n : ℚ) = factor s * n := by
  cases s <;> simp [Sign.apply, factor]

theorem factor_mul (s t : Sign) : factor (s * t) = factor s * factor t := by
  cases s <;> cases t <;> norm_num [factor]

theorem factor_div (s t : Sign) : factor (s / t) = factor s / factor t := by
  cases s <;> cases t <;> norm_num [factor] <;> rfl

/-- The unpacked double is the exact number, rounded: the nearest point of a grid, or an infinity
out of range. -/
def Rounds (q : ℚ) (u : UnpackedFloat) : Prop :=
  ∃ (s : Sign) (p : ℚ) (r : ℕ) (t : ℤ), q = factor s * p ∧ Nearest p r t ∧
    u = (Float.Model.pack (carried s r t)).unpack

section

variable {p q : ℚ} {u w : UnpackedFloat} {r : ℕ} {t : ℤ}

theorem abs_value_lt (hu : Canonical u) : |value u| < 2 ^ (1024 : ℤ) := by
  cases hu with
  | @finite s m e h size low high normal =>
      have hm : (m : ℚ) < 2 ^ 53 := by exact_mod_cast size
      have hvalue : |value (.finite s m e h)| = m * 2 ^ e := by
        rw [value, abs_mul, ← Int.cast_abs, abs_apply, abs_of_pos (by positivity : (0 : ℚ) < 2 ^ e)]
        rfl
      rw [hvalue]
      calc (m * 2 ^ e : ℚ)
        _ < 2 ^ 53 * 2 ^ e := by gcongr
        _ = 2 ^ (53 + e) := by rw [zpow_add₀ (by norm_num)]; norm_cast
        _ ≤ 2 ^ (1024 : ℤ) := zpow_le_zpow_right₀ (by norm_num) (by omega)
  | _ =>
      change |(0 : ℚ)| < _
      rw [abs_zero]
      exact two_zpow_pos 1024

theorem Nearest.place_carried (h : Nearest p r t) (s : Sign) :
    place (Float.Model.pack (carried s r t)).unpack = clip (factor s * (r * 2 ^ t)) := by
  rw [← mul_assoc, ← apply_eq_factor_mul]
  rcases h.neighbour.stands_or_infinity s with hstands | ⟨hinfinity, hlarge⟩
  · have hrange := abs_value_lt hstands.canonical
    rw [place_of_isFinite hstands.isFinite, clip_of_abs_lt (hstands.value_eq ▸ hrange),
      hstands.value_eq]
  · rw [hinfinity]
    cases s with
    | positive =>
        rw [clip, if_pos (by exact_mod_cast hlarge)]
        rfl
    | negative =>
        have hneg : (Sign.negative.apply (r : ℤ) * 2 ^ t : ℚ) = -(r * 2 ^ t) := by
          simp [Sign.apply]
        have hnonneg : (0 : ℚ) ≤ r * 2 ^ t :=
          mul_nonneg (Nat.cast_nonneg r) (two_zpow_pos t).le
        have hlt := (neg_nonpos.mpr hnonneg).trans_lt (two_zpow_pos 1024)
        rw [hneg, clip, if_neg (not_le.mpr hlt),
          if_pos (neg_le_neg hlarge)]
        rfl

/-- Rounding keeps the order. -/
theorem Rounds.mono (h : Rounds p u) (h' : Rounds q w) (hpq : p ≤ q) : place u ≤ place w := by
  obtain ⟨s, a, r, t, rfl, hr, rfl⟩ := h
  obtain ⟨s', b, k, e, rfl, hk, rfl⟩ := h'
  rw [hr.place_carried, hk.place_carried]
  apply clip_mono
  have ha := hr.nonneg
  have hb := hk.nonneg
  have hv : (0 : ℚ) ≤ r * 2 ^ t := by positivity
  have hw : (0 : ℚ) ≤ k * 2 ^ e := by positivity
  cases s <;> cases s' <;> simp only [factor, neg_mul, one_mul, neg_le_neg_iff] at hpq ⊢
  · exact hk.mono hr hpq
  · linarith
  · -- a number that is at least zero is at most one that is at most zero: both are zero
    obtain rfl : a = 0 := by linarith
    obtain rfl : b = 0 := by linarith
    have hr0 := hr.mono nearest_zero le_rfl
    have hk0 := hk.mono nearest_zero le_rfl
    rw [Nat.cast_zero, zero_mul] at hr0 hk0
    linarith
  · exact hr.mono hk hpq

theorem rounds_zero (s : Sign) : Rounds 0 (Float.Model.pack (.zero s)).unpack :=
  ⟨s, 0, 0, -1074, (mul_zero _).symm, nearest_zero, rfl⟩

/-- A double is the rounded result of its own number. -/
theorem Stands.rounds (h : Stands u q) : Rounds q u := by
  obtain ⟨hcanonical, hfinite, rfl⟩ := h
  have hpack := unpack_pack hcanonical
  cases hcanonical with
  | zero s => exact ⟨s, 0, 0, -1074, (mul_zero _).symm, nearest_zero, hpack.symm⟩
  | @finite s m e hm size low high normal =>
      refine ⟨s, m * 2 ^ e, m, e, ?_, ?_, ?_⟩
      · rw [value, apply_eq_factor_mul, mul_assoc]
      · refine ⟨by positivity, low, ?_, ?_, ?_⟩
        · refine normal.symm.imp_right fun h => ?_
          gcongr
          exact_mod_cast h
        · gcongr
          exact_mod_cast size
        · rw [mul_div_cancel_right₀ _ (by positivity)]
          exact .natCast m
      · rw [carried, dif_neg hm.ne', if_pos size]
        exact hpack.symm
  | _ => cases hfinite

theorem Rounds.isNaN (h : Rounds q u) : u.isNaN = false := by
  obtain ⟨s, p, r, t, -, hr, rfl⟩ := h
  rcases hr.neighbour.stands_or_infinity s with hstands | ⟨hinfinity, -⟩
  · have hfinite := hstands.isFinite
    cases hu : (Float.Model.pack (carried s r t)).unpack with
    | notANumber => rw [hu] at hfinite; cases hfinite
    | _ => rfl
  · rw [hinfinity]
    rfl

theorem carried_neg (s : Sign) (r : ℕ) (t : ℤ) : carried (-s) r t = (carried s r t).neg := by
  unfold carried
  split
  · rfl
  · split <;> rfl

theorem unpack_pack_neg (u : UnpackedFloat) :
    (Float.Model.pack u.neg).unpack = (Float.Model.pack u).unpack.neg := by
  change UnpackedFloat.unpack Format.binary64 (UnpackedFloat.pack Format.binary64 u.neg) =
    (UnpackedFloat.unpack Format.binary64 (UnpackedFloat.pack Format.binary64 u)).neg
  cases u with
  | notANumber => rfl
  | infinity s => cases s <;> rfl
  | zero s => cases s <;> rfl
  | finite s m e h =>
      simp only [UnpackedFloat.neg]
      unfold UnpackedFloat.pack
      dsimp only
      split
      next => cases s <;> rfl
      next =>
        -- the sign decides about neither the exponent nor the mantissa that is stored
        split <;>
        · unfold UnpackedFloat.unpack
          simp only [UnpackedFloat.unpackMantissa_packComponents,
            UnpackedFloat.unpackExponent_packComponents, UnpackedFloat.unpackSign_packComponents,
            UnpackedFloat.Sign.ofBitVec_toBitVec]
          split
          next => split <;> rfl
          next =>
            split
            next => split <;> rfl
            next => rfl

theorem Rounds.neg (h : Rounds q u) : Rounds (-q) u.neg := by
  obtain ⟨s, p, r, t, rfl, hr, rfl⟩ := h
  refine ⟨-s, p, r, t, ?_, hr, ?_⟩
  · cases s
    · change -(-1 * p) = 1 * p
      ring
    · change -(1 * p) = -1 * p
      ring
  · rw [carried_neg, unpack_pack_neg]

end

/-! ## Products and quotients -/

section Operations

variable {s t : Sign} {m n : ℕ} {e f : ℤ} {hm : 0 < m} {hn : 0 < n}

theorem rounds_mul_finite (h : e + f ≤ lastBit (m * n) (e + f)) :
    Rounds (s.apply m * 2 ^ e * (t.apply n * 2 ^ f)) (Float.Model.pack
      (UnpackedFloat.mul Format.binary64 (.finite s m e hm) (.finite t n f hn))).unpack := by
  obtain ⟨r, k, hround, hr⟩ := exists_nearest_of_locates (s * t) (.exact (m * n)) h
  refine ⟨s * t, _, r, k, ?_, hr, congrArg _ (congrArg _ hround)⟩
  rw [factor_mul, apply_eq_factor_mul, apply_eq_factor_mul, zpow_add₀ (by norm_num)]
  push_cast
  ring

/-- The quotient of mantissas is lengthened until no bit that is kept is missing. -/
theorem exists_divCore (hm : 0 < m) (hn : 0 < n) (e f : ℤ) :
    ∃ (k : ℕ) (g : ℤ) (a : UnpackedFloat.Accuracy) (x : ℚ),
      UnpackedFloat.divCore Format.binary64 m e n f = (k, g, a) ∧
      Locates (.ofMantissaAndAccuracy k a) x ∧ g ≤ lastBit k g ∧
      x * 2 ^ g = m * 2 ^ e / (n * 2 ^ f) := by
  have htotal : totalExponent m e - totalExponent n f = m.log2 + e - n.log2 - f := by
    change (m.log2 : ℤ) + 1 + e - ((n.log2 : ℤ) + 1 + f) = _
    ring
  have htarget : Format.binary64.targetExponent (totalExponent m e - totalExponent n f) =
      max ((m.log2 : ℤ) + e - n.log2 - f - 53) (-1074) := by
    rw [htotal]
    rfl
  obtain ⟨g, hg⟩ : ∃ g, g = min (e - f) (max ((m.log2 : ℤ) + e - n.log2 - f - 53) (-1074)) :=
    ⟨_, rfl⟩
  obtain ⟨shift, hshift⟩ := Int.eq_ofNat_of_zero_le (sub_nonneg.mpr (hg.trans_le (min_le_left _ _)))
  have hn' : (0 : ℚ) < n := by exact_mod_cast hn
  have hdiv : ((m * 2 ^ shift / n : ℕ) + ((m * 2 ^ shift % n : ℕ) : ℚ) / n) =
      m * 2 ^ shift / n := by
    rw [eq_div_iff hn'.ne', add_mul, div_mul_cancel₀ _ hn'.ne']
    exact_mod_cast Nat.div_add_mod' (m * 2 ^ shift) n
  refine ⟨m * 2 ^ shift / n, g,
    UnpackedFloat.accuracyOfFraction (m * 2 ^ shift % n) n, m * 2 ^ shift / n, ?_, ?_, ?_, ?_⟩
  · unfold UnpackedFloat.divCore
    simp only [htarget, ← hg, hshift, Int.toNat_natCast, Nat.shiftLeft_eq]
  · rw [← hdiv]
    exact .fraction _ (Nat.mod_lt _ hn)
  · rcases le_or_gt g (-1074) with hsmall | hlarge
    · exact hsmall.trans (lastBit_ge _ _)
    · -- the quotient has 53 bits: the shifted mantissa is 53 bits longer than the divisor
      refine le_lastBit_of_le g ((Nat.le_div_iff_mul_le hn).mpr ?_)
      have hlog : 53 + n.log2 ≤ m.log2 + shift := by omega
      calc 2 ^ 52 * n
        _ ≤ 2 ^ 52 * 2 ^ (n.log2 + 1) := Nat.mul_le_mul_left _ Nat.lt_log2_self.le
        _ = 2 ^ (53 + n.log2) := by ring
        _ ≤ 2 ^ (m.log2 + shift) := Nat.pow_le_pow_right two_pos hlog
        _ = 2 ^ m.log2 * 2 ^ shift := pow_add _ _ _
        _ ≤ m * 2 ^ shift := Nat.mul_le_mul_right _ (Nat.log2_self_le hm.ne')
  · have hef : e = f + g + shift := by omega
    have hpow : (2 ^ e : ℚ) = 2 ^ f * 2 ^ g * 2 ^ shift := by
      rw [hef, zpow_add₀ (by norm_num), zpow_add₀ (by norm_num), zpow_natCast]
    have hf : (2 ^ f : ℚ) ≠ 0 := by positivity
    rw [hpow]
    field_simp

theorem rounds_div_finite :
    Rounds (s.apply m * 2 ^ e / (t.apply n * 2 ^ f)) (Float.Model.pack
      (UnpackedFloat.div Format.binary64 (.finite s m e hm) (.finite t n f hn))).unpack := by
  obtain ⟨k, g, a, x, hcore, hlocates, hlast, hx⟩ := exists_divCore hm hn e f
  obtain ⟨r, u, hround, hr⟩ := exists_nearest_of_locates (s / t) hlocates hlast
  rw [hx] at hr
  refine ⟨s / t, _, r, u, ?_, hr, ?_⟩
  · rw [factor_div, apply_eq_factor_mul, apply_eq_factor_mul]
    ring
  · rw [UnpackedFloat.div, hcore]
    exact congrArg _ (congrArg _ hround)

end Operations

section Doubles

variable {p q : ℚ} {x y : Float}

theorem rounds_mul (hx : Stands x.toModel.unpack p) (hy : Stands y.toModel.unpack q) :
    Rounds (p * q) (x * y).toModel.unpack := by
  change Rounds _
    (Float.Model.pack (UnpackedFloat.mul _ x.toModel.unpack y.toModel.unpack)).unpack
  obtain ⟨hcx, hfx, rfl⟩ := hx
  obtain ⟨hcy, hfy, rfl⟩ := hy
  generalize x.toModel.unpack = u at *
  generalize y.toModel.unpack = w at *
  cases hcx with
  | zero s =>
      have hzero : value (.zero s) * value w = 0 := zero_mul _
      rw [hzero]
      cases hcy with
      | zero t => exact rounds_zero (s * t)
      | finite t => exact rounds_zero (s * t)
      | _ => cases hfy
  | @finite s m e hm size low high normal =>
      cases hcy with
      | zero t =>
          have hzero : value (.finite s m e hm) * value (.zero t) = 0 := mul_zero _
          rw [hzero]
          exact rounds_zero (s * t)
      | @finite t n f hn size' low' high' normal' =>
          exact rounds_mul_finite (le_lastBit_mul hm hn normal normal')
      | _ => cases hfy
  | _ => cases hfx

theorem rounds_div (hx : Stands x.toModel.unpack p) (hy : Stands y.toModel.unpack q)
    (hq : q ≠ 0) : Rounds (p / q) (x / y).toModel.unpack := by
  change Rounds _
    (Float.Model.pack (UnpackedFloat.div _ x.toModel.unpack y.toModel.unpack)).unpack
  obtain ⟨hcx, hfx, rfl⟩ := hx
  obtain ⟨hcy, hfy, rfl⟩ := hy
  generalize x.toModel.unpack = u at *
  generalize y.toModel.unpack = w at *
  cases hcy with
  | zero t => exact absurd rfl hq
  | @finite t n f hn =>
      cases hcx with
      | zero s =>
          have hzero : value (.zero s) / value (.finite t n f hn) = 0 := zero_div _
          rw [hzero]
          exact rounds_zero (s / t)
      | finite s => exact rounds_div_finite
      | _ => cases hfx
  | _ => cases hfy

end Doubles

/-! ## Integers and decimals -/

theorem stands_of_parts {x : Float} {p : Parts} (h : parts? x = some p) :
    Stands x.toModel.unpack (p.signed * 2 ^ p.exponent) := by
  rw [parts?_eq] at h
  have hcanonical := canonical_unpack x
  cases hu : x.toModel.unpack with
  | finite s m e hm =>
      rw [hu] at h hcanonical
      obtain rfl := Option.some.inj h
      exact ⟨hcanonical, rfl, by rw [signed_mk]; rfl⟩
  | zero s =>
      rw [hu] at h
      obtain rfl := Option.some.inj h
      exact ⟨.zero s, rfl, by rw [signed_mk]; cases s <;> simp [value, Sign.apply]⟩
  | _ => rw [hu] at h; cases h

/-- The powers of ten of the table are exact. -/
theorem any_parts_powersOfTen (k : Fin Float.exactlyRepresentablePowersOfTen.size) :
    ((parts? Float.exactlyRepresentablePowersOfTen[k]).any fun p =>
      !p.negative && -52 ≤ p.exponent &&
        p.mantissa * 2 ^ (p.exponent + 52).toNat == 10 ^ k.val * 2 ^ 52) = true := by
  revert k
  decide +kernel

theorem stands_powerOfTen {k : ℕ} (hk : k < Float.exactlyRepresentablePowersOfTen.size) :
    Stands (Float.exactlyRepresentablePowersOfTen[k]).toModel.unpack (10 ^ k) := by
  obtain ⟨p, hparts, hp⟩ := (Option.any_eq_true ..).mp (any_parts_powersOfTen ⟨k, hk⟩)
  simp only [Bool.and_eq_true, decide_eq_true_iff, beq_iff_eq, Bool.not_eq_true'] at hp
  obtain ⟨⟨hsign, hlow⟩, hvalue⟩ := hp
  have hexponent : ((p.exponent + 52).toNat : ℤ) = p.exponent + 52 := by omega
  have hcast : (p.mantissa * 2 ^ (p.exponent + 52) : ℚ) = 10 ^ k * 2 ^ 52 := by
    rw [← hexponent, zpow_natCast]
    exact_mod_cast hvalue
  have hsigned : p.signed = p.mantissa := by rw [Parts.signed, hsign]; rfl
  have heq : (p.signed * 2 ^ p.exponent : ℚ) = 10 ^ k := by
    rw [zpow_add₀ (by norm_num), ← mul_assoc] at hcast
    rw [hsigned]
    exact mul_right_cancel₀ (by norm_num) hcast
  exact heq ▸ stands_of_parts hparts

theorem stands_toFloat_natCast {n : ℕ} (hn : n < 2 ^ 53) :
    Stands n.toUInt64.toFloat.toModel.unpack n := by
  have hn64 : n.toUInt64.toNat = n := by
    simp
    omega
  have h := stands_toFloat (n := n.toUInt64) (by omega)
  rw [hn64] at h
  exact_mod_cast h

theorem unpack_neg (x : Float) : (-x).toModel.unpack = x.toModel.unpack.neg := by
  change (Float.Model.pack x.toModel.unpack.neg).unpack = _
  rw [unpack_pack_neg, unpack_pack (canonical_unpack x)]

/-- A natural number becomes the nearest double. -/
theorem rounds_ofNat (n : ℕ) : Rounds n (Float.ofNat n).toModel.unpack := by
  rcases lt_or_ge n (2 ^ 53) with hsmall | hlarge
  · have h := rounds_mul (stands_toFloat_natCast hsmall) (stands_powerOfTen (k := 0) (by decide))
    rw [pow_zero, mul_one] at h
    rw [ofNat_of_lt hsmall]
    exact h
  · have hpos : 0 < n * 2 ^ 53 := by omega
    have hle : (-53 : ℤ) ≤ lastBit (n * 2 ^ 53) (-53) := le_lastBit_of_le _ (by omega)
    have hvalue : ((n * 2 ^ 53 : ℕ) * 2 ^ (-53 : ℤ) : ℚ) = n := by
      push_cast
      rw [zpow_neg]
      exact mul_inv_cancel_right₀ (by norm_num) _
    obtain ⟨r, t, hround, hr⟩ := exists_nearest_of_locates .positive (.exact (n * 2 ^ 53)) hle
    rw [hvalue] at hr
    have hshort : (-53 - lastBit (n * 2 ^ 53) (-53)).toNat = 0 := by omega
    rw [ofNat_of_le hlarge, round_eq .positive hpos, hshort, pow_zero, mul_one,
      ← roundWithAccuracy_eq .positive hle, hround]
    exact ⟨.positive, n, r, t, (one_mul _).symm, hr, rfl⟩

/-- An integer becomes the nearest double. -/
theorem rounds_ofInt (n : ℤ) : Rounds n (Float.ofInt n).toModel.unpack := by
  cases n with
  | ofNat n => exact_mod_cast rounds_ofNat n
  | negSucc n =>
      have h := (rounds_ofNat (n + 1)).neg
      rw [← unpack_neg] at h
      rw [Int.negSucc_eq]
      exact_mod_cast h

/-- A number below half of the smallest double becomes zero. -/
theorem rounds_of_lt {q : ℚ} (hq : 0 ≤ q) (h : q < 2 ^ (-1075 : ℤ)) :
    Rounds q (Float.Model.pack (.zero .positive)).unpack := by
  have hunit : (2 ^ (-1074 : ℤ) : ℚ) = 2 ^ (-1075 : ℤ) * 2 := zpow_add_one₀ (by norm_num) (-1075)
  have hpos := two_zpow_pos (-1075)
  refine ⟨.positive, q, 0, -1074, (one_mul q).symm, ⟨hq, le_rfl, .inl rfl, ?_, ?_⟩, rfl⟩ <;>
    rw [hunit] <;> generalize (2 ^ (-1075 : ℤ) : ℚ) = unit at h hpos
  · linarith
  · have hlt : q / (unit * 2) < 1 / 2 := by
      rw [div_lt_iff₀ (by positivity)]
      linarith
    have habs : |q / (unit * 2) - (0 : ℕ)| < 1 / 2 := by
      rwa [Nat.cast_zero, sub_zero, abs_of_nonneg (by positivity)]
    exact ⟨habs.le, fun heq => absurd heq habs.ne⟩

/-- A decimal with places after the point becomes the nearest double. -/
theorem rounds_ofScientific (n : ℕ) {k : ℕ} (hk : 0 < k) :
    Rounds (n / 10 ^ k) (Float.ofScientific n true k).toModel.unpack := by
  by_cases hsmall : n < 2 ^ 53 ∧ k ≤ 22
  · have h := rounds_div (stands_toFloat_natCast hsmall.1)
      (stands_powerOfTen (k := k) (Nat.lt_succ_of_le hsmall.2)) (by positivity)
    rw [Float.ofScientific, dif_pos hsmall]
    exact h
  · have hscientific : Float.ofScientific n true k =
        ⟨Float.Model.pack (UnpackedFloat.ofScientific Format.binary64 n (Int.negOfNat k))⟩ := by
      rw [Float.ofScientific, dif_neg hsmall]
      rfl
    rw [hscientific]
    change Rounds _ (Float.Model.pack (UnpackedFloat.ofScientific Format.binary64 n _)).unpack
    have hexp : Int.negOfNat k = -k := by
      cases k <;> rfl
    have hbits : (2 : ℤ) ^ Format.binary64.exponentBits = 2048 := rfl
    rw [hexp, UnpackedFloat.ofScientific, hbits]
    split
    next hzero =>
      rw [hzero, Nat.cast_zero, zero_div]
      exact rounds_zero .positive
    next hzero =>
      rw [if_neg (by omega)]
      split
      next htiny =>
        refine rounds_of_lt (by positivity) ?_
        rw [div_lt_iff₀ (by positivity)]
        have hlog : (n : ℚ) < 2 ^ (n.log2 + 1) := by exact_mod_cast Nat.lt_log2_self
        have hpower : (2 : ℚ) ^ (n.log2 + 1076) ≤ 10 ^ k := calc
          (2 : ℚ) ^ (n.log2 + 1076)
          _ ≤ 2 ^ k := pow_le_pow_right₀ (by norm_num) (by omega)
          _ ≤ 10 ^ k := pow_le_pow_left₀ (by norm_num) (by norm_num) k
        calc (n : ℚ)
          _ < 2 ^ (n.log2 + 1) := hlog
          _ = 2 ^ (-1075 : ℤ) * 2 ^ (n.log2 + 1076) := by
            have hsum : ((n.log2 + 1 : ℕ) : ℤ) = -1075 + (n.log2 + 1076 : ℕ) := by omega
            rw [← zpow_natCast, hsum, zpow_add₀ (by norm_num), zpow_natCast]
          _ ≤ 2 ^ (-1075 : ℤ) * 10 ^ k := mul_le_mul_of_nonneg_left hpower (two_zpow_pos _).le
      next =>
        have hquotient : (n / 10 ^ k : ℚ) =
            Sign.positive.apply n * 2 ^ (0 : ℤ) /
              (Sign.positive.apply (10 ^ (-(-k : ℤ)).toNat : ℕ) * 2 ^ (0 : ℤ)) := by
          simp [Sign.apply]
        rw [if_neg (by omega), hquotient]
        exact rounds_div_finite

end MockApi.Double
