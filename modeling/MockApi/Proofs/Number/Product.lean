import MockApi.Proofs.Number.Shift

/-! # Products of whole doubles

The exact product of two whole doubles is an integer. Where the last bit that is kept is worth less
than one, all integers are on the grid of doubles; where it is worth more, everything on the grid is
an integer. So the rounded product is whole too, unless it is out of range.
-/

namespace MockApi.Double

open Float.Model
open UnpackedFloat (Sign)

/-! ## Rounding an integer -/

namespace Neighbour

variable {q : ℚ} {r : ℕ} {t : ℤ}

theorem exponent_le_of_le_two_pow (h : Neighbour q r t) {bits : ℕ} (hq : q ≤ 2 ^ bits) :
    t = -1074 ∨ t + 52 ≤ bits := by
  refine h.normal.imp_right fun hnormal => ?_
  have hpow : (2 ^ (52 + t) : ℚ) ≤ 2 ^ (bits : ℤ) := by
    rw [zpow_add₀ (by norm_num)]
    exact_mod_cast hnormal.trans hq
  have := (zpow_le_zpow_iff_right₀ (by norm_num : (1 : ℚ) < 2)).mp hpow
  omega

/-- A power of two that is not below a number is not below its neighbour. -/
theorem le_two_pow (h : Neighbour q r t) {bits : ℕ} (hq : q ≤ 2 ^ bits) :
    (r * 2 ^ t : ℚ) ≤ 2 ^ bits := by
  have ht : t ≤ bits := by
    rcases h.exponent_le_of_le_two_pow hq with rfl | ht <;> omega
  have hgrid : ((2 ^ (bits - t).toNat : ℕ) * 2 ^ t : ℚ) = 2 ^ bits := by
    push_cast
    rw [← zpow_natCast, ← zpow_add₀ (by norm_num), Int.toNat_of_nonneg (by omega)]
    simp
  have hle := h.ge_of_ge _ (hq.trans_eq hgrid.symm)
  calc (r * 2 ^ t : ℚ)
    _ ≤ (2 ^ (bits - t).toNat : ℕ) * 2 ^ t := by gcongr
    _ = 2 ^ bits := hgrid

/-- The neighbour of an integer is an integer. -/
theorem exists_natCast (h : Neighbour q r t) {n : ℕ} (hq : q = n) :
    ∃ k : ℕ, (r * 2 ^ t : ℚ) = k := by
  rcases le_or_gt 0 t with ht | ht
  · obtain ⟨e, rfl⟩ := Int.eq_ofNat_of_zero_le ht
    exact ⟨r * 2 ^ e, by push_cast; rw [zpow_natCast]⟩
  · -- below one, the integer itself is on the grid
    exact ⟨n, (h.eq_of_grid (hq.trans (natCast_on_grid n ht.le).symm)).trans hq⟩

end Neighbour

theorem unpack_pack_of_overflow {s : Sign} {m : ℕ} {e : ℤ} {h : 0 < m} (he : 972 ≤ e) :
    (Float.Model.pack (.finite s m e h)).unpack = .infinity s := by
  change UnpackedFloat.unpack Format.binary64 (UnpackedFloat.pack Format.binary64 _) = _
  have hbiased : e + (Format.binary64.exponentBias : ℤ) +
      (Format.binary64.mantissaBitsWithoutImplicit : ℤ) = e + 1075 := by
    rw [add_assoc]
    rfl
  have hroom : 2 ^ Format.binary64.exponentBits ≤ (e + 1075).toNat + 1 := by
    change 2 ^ 11 ≤ _
    omega
  unfold UnpackedFloat.pack
  simp only [hbiased, if_pos hroom]
  cases s <;> rfl

/-- A rounded number is packed as it is, or as an infinity when it is out of range. -/
theorem Neighbour.stands_or_infinity {q : ℚ} {r : ℕ} {t : ℤ} (h : Neighbour q r t) (s : Sign) :
    Stands (Float.Model.pack (carried s r t)).unpack (s.apply r * 2 ^ t) ∨
      (Float.Model.pack (carried s r t)).unpack = .infinity s ∧
        (2 ^ (1024 : ℤ) : ℚ) ≤ r * 2 ^ t := by
  rcases le_or_gt t 970 with ht | ht
  · exact .inl (h.stands_of_exponent_le ht s).pack
  · have hnormal : 2 ^ 52 ≤ r := h.normal_size.resolve_left (by omega)
    have h0 : r ≠ 0 := by
      rintro rfl
      simp at hnormal
    have hlarge {bits : ℕ} (hr : 2 ^ bits ≤ r) (hbits : 1024 ≤ bits + t) :
        (2 ^ (1024 : ℤ) : ℚ) ≤ r * 2 ^ t := by
      calc (2 ^ (1024 : ℤ) : ℚ)
        _ ≤ 2 ^ (bits + t) := zpow_le_zpow_right₀ (by norm_num) hbits
        _ = 2 ^ bits * 2 ^ t := by rw [zpow_add₀ (by norm_num), zpow_natCast]
        _ ≤ r * 2 ^ t := by gcongr; exact_mod_cast hr
    unfold carried
    rw [dif_neg h0]
    split
    next hsize =>
      rcases (Int.add_one_le_iff.mpr ht).eq_or_lt with rfl | ht
      · left
        exact Stands.pack ⟨.finite s _ hsize (by decide) (by decide) (.inl hnormal), rfl, rfl⟩
      · exact .inr ⟨unpack_pack_of_overflow (by omega), hlarge hnormal (by omega)⟩
    next hsize =>
      exact .inr ⟨unpack_pack_of_overflow (by omega), hlarge (not_lt.mp hsize) (by omega)⟩

/-- What an integer may be rounded to: an integer that is no longer, or an infinity in place of one
that is out of range. -/
def RoundsTo (n : ℤ) (u : UnpackedFloat) : Prop :=
  (∃ k : ℤ, Stands u k ∧ ∀ bits : ℕ, |n| ≤ 2 ^ bits → |k| ≤ 2 ^ bits) ∨
    (∃ s, u = .infinity s) ∧ 2 ^ 1022 < |n|

theorem abs_apply (s : Sign) (n : ℕ) : |s.apply n| = n := by
  cases s
  · exact (abs_neg _).trans (Nat.abs_cast n)
  · exact Nat.abs_cast n

theorem apply_mul_two_pow (s : Sign) {m k : ℕ} {e : ℤ} (h : (m * 2 ^ e : ℚ) = k) :
    (s.apply m * 2 ^ e : ℚ) = s.apply k := by
  cases s
  · simpa [Sign.apply] using h
  · simpa [Sign.apply] using h

theorem natAbs_le_two_pow {n : ℤ} {bits : ℕ} (h : |n| ≤ 2 ^ bits) :
    (n.natAbs : ℚ) ≤ 2 ^ bits := by
  rw [Nat.cast_natAbs]
  exact_mod_cast h

/-- An integer that is rounded and packed stays an integer. -/
theorem roundsTo_round (s : Sign) {m : ℕ} (hm : 0 < m) (e : ℤ) {n : ℤ}
    (hn : (s.apply m * 2 ^ e : ℚ) = n) :
    RoundsTo n (Float.Model.pack (UnpackedFloat.round Format.binary64 s m e)).unpack := by
  have habs : (m * 2 ^ e : ℚ) = n.natAbs := by
    rw [Nat.cast_natAbs, Int.cast_abs, ← hn, abs_mul, ← Int.cast_abs, abs_apply]
    simp
  obtain ⟨r, t, hround, h⟩ := exists_round s hm e
  obtain ⟨k, hk⟩ := h.exists_natCast habs
  rw [hround]
  rcases h.stands_or_infinity s with hstands | ⟨hinfinity, hlarge⟩
  · rw [apply_mul_two_pow s hk] at hstands
    refine .inl ⟨s.apply k, hstands, fun bits hbits => ?_⟩
    have hle := h.le_two_pow (habs.trans_le (natAbs_le_two_pow hbits))
    rw [hk] at hle
    rw [abs_apply]
    exact_mod_cast hle
  · refine .inr ⟨⟨s, hinfinity⟩, lt_of_not_ge fun hle => ?_⟩
    have hmax := h.le_two_pow (habs.trans_le (natAbs_le_two_pow hle))
    rw [← zpow_natCast] at hmax
    have hpow := (zpow_le_zpow_iff_right₀ (by norm_num : (1 : ℚ) < 2)).mp (hlarge.trans hmax)
    norm_num at hpow

/-! ## Products -/

theorem apply_mul (s t : Sign) (m n : ℕ) :
    (s * t).apply ((m * n : ℕ) : ℤ) = s.apply m * t.apply n := by
  rw [Nat.cast_mul]
  cases s <;> cases t
  · exact (neg_mul_neg _ _).symm
  · exact (neg_mul _ _).symm
  · exact (mul_neg _ _).symm
  · rfl

/-- The product of mantissas that is long enough is rounded without being lengthened. -/
theorem mul_finite_eq_round {s t : Sign} {m n : ℕ} {e f : ℤ} {hm : 0 < m} {hn : 0 < n}
    (h : e + f ≤ lastBit (m * n) (e + f)) :
    UnpackedFloat.mul Format.binary64 (.finite s m e hm) (.finite t n f hn) =
      UnpackedFloat.round Format.binary64 (s * t) (m * n) (e + f) := by
  have hshort : (e + f - lastBit (m * n) (e + f)).toNat = 0 := by omega
  rw [round_eq (s * t) (Nat.mul_pos hm hn), hshort, pow_zero, mul_one]
  exact roundWithAccuracy_eq (s * t) h

theorem le_lastBit_of_le {m : ℕ} (e : ℤ) (h : 2 ^ 52 ≤ m) : e ≤ lastBit m e := by
  have hlog : 52 ≤ m.log2 := (Nat.le_log2 (by omega)).mpr h
  unfold lastBit
  omega

theorem le_lastBit_mul {m n : ℕ} {e f : ℤ} (hm : 0 < m) (hn : 0 < n)
    (he : 2 ^ 52 ≤ m ∨ e = -1074) (hf : 2 ^ 52 ≤ n ∨ f = -1074) :
    e + f ≤ lastBit (m * n) (e + f) := by
  rcases he with he | rfl
  · exact le_lastBit_of_le _ (he.trans (Nat.le_mul_of_pos_right m hn))
  · rcases hf with hf | rfl
    · exact le_lastBit_of_le _ (hf.trans (Nat.le_mul_of_pos_left n hm))
    · exact le_trans (by decide) (lastBit_ge _ _)

theorem roundsTo_mul {x y : Float} {i j : ℤ} (hx : Stands x.toModel.unpack i)
    (hy : Stands y.toModel.unpack j) : RoundsTo (i * j) (x * y).toModel.unpack := by
  change RoundsTo _
    (Float.Model.pack (UnpackedFloat.mul _ x.toModel.unpack y.toModel.unpack)).unpack
  obtain ⟨hcx, hfx, hi⟩ := hx
  obtain ⟨hcy, hfy, hj⟩ := hy
  generalize x.toModel.unpack = u at *
  generalize y.toModel.unpack = w at *
  have hzero (h : i * j = 0) (s : Sign) :
      RoundsTo (i * j) (Float.Model.pack (.zero s)).unpack := by
    refine .inl ⟨0, Stands.pack ⟨.zero s, rfl, Int.cast_zero.symm⟩, fun bits _ => ?_⟩
    rw [abs_zero]
    positivity
  cases hcx with
  | zero s =>
      have hi : (i : ℚ) = 0 := hi.symm
      have hi0 : i = 0 := by exact_mod_cast hi
      have hij : i * j = 0 := by rw [hi0, zero_mul]
      cases hcy with
      | zero t => exact hzero hij _
      | finite t => exact hzero hij _
      | _ => cases hfy
  | @finite s m e hm size low high normal =>
      cases hcy with
      | zero t =>
          have hj : (j : ℚ) = 0 := hj.symm
          have hj0 : j = 0 := by exact_mod_cast hj
          exact hzero (by rw [hj0, mul_zero]) _
      | @finite t n f hn size' low' high' normal' =>
          rw [mul_finite_eq_round (le_lastBit_mul hm hn normal normal')]
          refine roundsTo_round (s * t) (Nat.mul_pos hm hn) (e + f) ?_
          have hi : (s.apply m * 2 ^ e : ℚ) = i := hi
          have hj : (t.apply n * 2 ^ f : ℚ) = j := hj
          rw [apply_mul, Int.cast_mul, Int.cast_mul, ← hi, ← hj, zpow_add₀ (by norm_num)]
          ring
      | _ => cases hfy
  | _ => cases hfx

theorem RoundsTo.exists_stands {n : ℤ} {u : UnpackedFloat} (h : RoundsTo n u) {bits : ℕ}
    (hbits : bits ≤ 1022) (hn : |n| ≤ 2 ^ bits) : ∃ k : ℤ, Stands u k ∧ |k| ≤ 2 ^ bits := by
  rcases h with ⟨k, hk, hle⟩ | ⟨-, hlt⟩
  · exact ⟨k, hk, hle bits hn⟩
  · exact absurd (hn.trans (pow_le_pow_right₀ (by norm_num) hbits)) (not_le.mpr hlt)

/-! ## Integers as doubles -/

theorem SameSide.eq_intCast {n : ℤ} {v : ℚ} (h : SameSide n v) : v = n :=
  le_antisymm ((h n).2 le_rfl) ((h n).1 le_rfl)

/-- Below two to the power of 53 an integer is a double. -/
theorem stands_toFloat {n : UInt64} (hn : n.toNat < 2 ^ 53) :
    Stands n.toFloat.toModel.unpack (n.toNat : ℤ) := by
  have hbound : |(((n.toNat : ℤ) : ℚ) * 2 ^ (0 : ℤ))| ≤ 2 ^ 53 := by
    rw [zpow_zero, mul_one, Int.cast_natCast, Nat.abs_cast]
    exact_mod_cast hn.le
  obtain ⟨v, hv, hside⟩ := stands_normalize n.toNat 0 .positive hbound
  rw [zpow_zero, mul_one] at hside
  rw [hside.eq_intCast] at hv
  exact hv.pack

theorem ofNat_of_lt {n : ℕ} (h : n < 2 ^ 53) :
    Float.ofNat n = n.toUInt64.toFloat * Float.exactlyRepresentablePowersOfTen[0] := by
  change Float.ofScientific n false 0 = _
  rw [Float.ofScientific, dif_pos ⟨h, by decide⟩]
  rfl

theorem ofNat_of_le {n : ℕ} (h : 2 ^ 53 ≤ n) :
    (Float.ofNat n).toModel =
      Float.Model.pack (UnpackedFloat.round Format.binary64 .positive (n * 2 ^ 53) (-53)) := by
  have hpos : n ≠ 0 := by omega
  have hscientific : Float.ofNat n = ⟨Float.Model.ofScientific n 0⟩ := by
    change Float.ofScientific n false 0 = _
    rw [Float.ofScientific, dif_neg fun hn => by omega]
    rfl
  rw [hscientific]
  change Float.Model.pack (UnpackedFloat.ofScientific _ n 0) = _
  have hrange : (0 : ℤ) < 2 ^ Format.binary64.exponentBits := by positivity
  rw [UnpackedFloat.ofScientific, dif_neg hpos, if_neg (by decide), if_neg (by omega),
    if_pos le_rfl]
  have hmantissa : n <<< Format.binary64.mantissaBits * 10 ^ Int.toNat 0 = n * 2 ^ 53 := by
    rw [Nat.shiftLeft_eq]
    exact Nat.mul_one _
  refine congrArg Float.Model.pack ((mul_finite_eq_round ?_).trans ?_)
  · rw [hmantissa]
    exact le_lastBit_of_le _ (by omega)
  · rw [hmantissa]
    rfl

theorem stands_ofNat {n : ℕ} (hn : n ≤ 2 ^ 63) :
    ∃ k : ℤ, Stands (Float.ofNat n).toModel.unpack k ∧ |k| ≤ 2 ^ 63 := by
  have hbound : |(n : ℤ)| ≤ 2 ^ 63 := by
    rw [Nat.abs_cast]
    exact_mod_cast hn
  rcases lt_or_ge n (2 ^ 53) with hsmall | hlarge
  · have hn64 : n.toUInt64.toNat = n := by
      simp
      omega
    have hx := stands_toFloat (n := n.toUInt64) (by omega)
    have hone : Stands (Float.exactlyRepresentablePowersOfTen[0]).toModel.unpack (1 : ℤ) := by
      exact_mod_cast stands_one
    rw [hn64] at hx
    rw [ofNat_of_lt hsmall]
    exact (roundsTo_mul hx hone).exists_stands (by decide) (by rwa [mul_one])
  · rw [ofNat_of_le hlarge]
    have hvalue : (Sign.positive.apply ((n * 2 ^ 53 : ℕ) : ℤ) * 2 ^ (-53 : ℤ) : ℚ) = (n : ℤ) := by
      rw [Sign.apply]
      push_cast
      rw [zpow_neg]
      exact mul_inv_cancel_right₀ (by norm_num) _
    exact (roundsTo_round .positive (by omega) (-53) hvalue).exists_stands (by decide) hbound

theorem stands_ofInt {n : ℤ} (hn : |n| ≤ 2 ^ 63) :
    ∃ k : ℤ, Stands (Float.ofInt n).toModel.unpack k ∧ |k| ≤ 2 ^ 63 := by
  cases n with
  | ofNat n =>
      have hle : (n : ℤ) ≤ 2 ^ 63 := (le_abs_self _).trans hn
      exact stands_ofNat (by exact_mod_cast hle)
  | negSucc n =>
      rw [Int.negSucc_eq, abs_neg] at hn
      have hle : (n + 1 : ℤ) ≤ 2 ^ 63 := (le_abs_self _).trans hn
      have hn' : n + 1 ≤ 2 ^ 63 := by exact_mod_cast hle
      obtain ⟨k, hk, hle⟩ := stands_ofNat hn'
      refine ⟨-k, ?_, by rwa [abs_neg]⟩
      have hneg := hk.neg.pack
      push_cast
      exact hneg

/-! ## Whole doubles -/

theorem isFinite_of_isWhole {x : Float} (h : isWhole x = true) : x.isFinite = true := by
  change x.toModel.unpack.isFinite = true
  unfold isWhole at h
  rw [parts?_eq] at h
  cases hu : x.toModel.unpack with
  | notANumber => rw [hu] at h; cases h
  | infinity s => rw [hu] at h; cases h
  | _ => rfl

theorem isWhole_of_not_isFinite {x : Float} (h : x.isFinite = false) : isWhole x = false := by
  by_contra hwhole
  rw [isFinite_of_isWhole (eq_true_of_ne_false hwhole)] at h
  cases h

theorem exists_stands_of_isWhole {x : Float} (h : isWhole x = true) :
    ∃ n : ℤ, Stands x.toModel.unpack n := by
  have hstands := stands_unpack (isFinite_of_isWhole h)
  obtain ⟨n, hn⟩ := hstands.isWhole_iff.mp h
  exact ⟨n, hn ▸ hstands⟩

/-- The product of whole doubles is whole, unless it is out of range. -/
theorem isWhole_mul {x y : Float} (hx : isWhole x = true) (hy : isWhole y = true) :
    isWhole (x * y) = true ∨ (x * y).isFinite = false := by
  obtain ⟨i, hi⟩ := exists_stands_of_isWhole hx
  obtain ⟨j, hj⟩ := exists_stands_of_isWhole hy
  rcases roundsTo_mul hi hj with ⟨k, hk, -⟩ | ⟨⟨s, hs⟩, -⟩
  · exact .inl (hk.isWhole_iff.mpr ⟨k, rfl⟩)
  · right
    change (x * y).toModel.unpack.isFinite = false
    rw [hs]
    rfl

theorem isWhole_ofInt {n : ℤ} (hn : |n| ≤ 2 ^ 63) : isWhole (Float.ofInt n) = true := by
  obtain ⟨k, hk, -⟩ := stands_ofInt hn
  exact hk.isWhole_iff.mpr ⟨k, rfl⟩

theorem isWhole_ofInt_mul_one {n : ℤ} (hn : |n| ≤ 2 ^ 63) :
    isWhole (Float.ofInt n * 1) = true := by
  obtain ⟨k, hk, hle⟩ := stands_ofInt hn
  have hone : Stands (1 : Float).toModel.unpack (1 : ℤ) := by
    exact_mod_cast stands_one
  have hbits : |k * 1| ≤ 2 ^ 63 := by rwa [mul_one]
  obtain ⟨l, hl, -⟩ := (roundsTo_mul hk hone).exists_stands (by decide) hbits
  exact hl.isWhole_iff.mpr ⟨l, rfl⟩

end MockApi.Double
