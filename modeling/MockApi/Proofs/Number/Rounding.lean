import MockApi.Proofs.Number.Exact

/-! # Rounded sums

A sum of doubles is rounded to a neighbour on the grid of doubles. Up to two to the power of 53 all
integers are on that grid, so rounding does not carry a sum across an integer.
-/

namespace MockApi.Double

open Float.Model
open UnpackedFloat (ExtendedMantissa Sign)

/-! ## Dropping bits -/

/-- The mantissa that stays when the lowest `k` bits are rounded away. -/
def dropBits (m k : ℕ) : ℕ :=
  (ExtendedMantissa.ofMantissaAndAccuracy m .exact >>> k).roundedMantissa

theorem shiftRight_succ (a : ExtendedMantissa) (k : ℕ) :
    a >>> (k + 1) = (a >>> k).shiftRightOne := rfl

theorem mantissa_shiftRight (a : ExtendedMantissa) (k : ℕ) :
    (a >>> k).mantissa = a.mantissa / 2 ^ k := by
  induction k with
  | zero => exact (Nat.div_one _).symm
  | succ k ih =>
      rw [shiftRight_succ, ExtendedMantissa.shiftRightOne, ih, Nat.div_div_eq_div_mul,
        Nat.pow_succ]

theorem shiftRight_of_dvd {m k : ℕ} (h : 2 ^ k ∣ m) :
    ExtendedMantissa.ofMantissaAndAccuracy m .exact >>> k =
      ⟨m / 2 ^ k, false, false⟩ := by
  induction k with
  | zero => rw [pow_zero, Nat.div_one]; rfl
  | succ k ih =>
      obtain ⟨n, rfl⟩ := h
      have hn : 2 ^ (k + 1) * n = 2 ^ k * (2 * n) := by ring
      rw [shiftRight_succ, ih ((pow_dvd_pow 2 (Nat.le_succ k)).mul_right n),
        Nat.mul_div_cancel_left n (Nat.two_pow_pos (k + 1)), hn,
        Nat.mul_div_cancel_left (2 * n) (Nat.two_pow_pos k)]
      simp [ExtendedMantissa.shiftRightOne]

theorem le_roundedMantissa (a : ExtendedMantissa) :
    a.mantissa ≤ a.roundedMantissa ∧ a.roundedMantissa ≤ a.mantissa + 1 := by
  obtain ⟨m, r, s⟩ := a
  cases r <;> cases s <;>
    simp [ExtendedMantissa.roundedMantissa, ExtendedMantissa.accuracy,
      UnpackedFloat.Accuracy.roundToNearestEven]
  omega

section DropBits

variable {m k n : ℕ}

theorem dropBits_bounds : m / 2 ^ k ≤ dropBits m k ∧ dropBits m k ≤ m / 2 ^ k + 1 := by
  have h := le_roundedMantissa
    (ExtendedMantissa.ofMantissaAndAccuracy m .exact >>> k)
  rw [mantissa_shiftRight] at h
  exact h

theorem le_dropBits (h : n * 2 ^ k ≤ m) : n ≤ dropBits m k :=
  ((Nat.le_div_iff_mul_le (Nat.two_pow_pos k)).mpr h).trans dropBits_bounds.1

theorem dropBits_le (h : m ≤ n * 2 ^ k) : dropBits m k ≤ n := by
  -- a mantissa that is rounded up to more than its quotient had a bit to drop
  by_cases hd : 2 ^ k ∣ m
  · have hm : dropBits m k = m / 2 ^ k := by
      rw [dropBits, shiftRight_of_dvd hd]
      rfl
    rw [hm]
    exact Nat.div_le_of_le_mul (by rwa [mul_comm])
  · have hlt : m < n * 2 ^ k := lt_of_le_of_ne h fun h' => hd ⟨n, by rw [h', mul_comm]⟩
    have hdiv : m / 2 ^ k < n := Nat.div_lt_of_lt_mul (by rwa [mul_comm])
    exact dropBits_bounds.2.trans hdiv

end DropBits

/-! ## Rounding to the grid -/

/-- The exponent of the last bit that a double near `m * 2 ^ e` keeps. -/
def lastBit (m : ℕ) (e : ℤ) : ℤ := max (m.log2 + e - 52) (-1074)

theorem targetExponent_eq (m : ℕ) (e : ℤ) :
    Format.binary64.targetExponent (totalExponent m e) = lastBit m e := by
  change max ((m.log2 : ℤ) + 1 + e - 53) (-1074) = _
  rw [lastBit]
  congr 1
  ring

/-- The double with the rounded mantissa `r`, which may have grown by one bit. -/
def carried (s : Sign) (r : ℕ) (t : ℤ) : UnpackedFloat :=
  if h : r = 0 then .zero s
  else if r < 2 ^ 53 then .finite s r t (Nat.pos_of_ne_zero h)
  else .finite s (2 ^ 52) (t + 1) (Nat.two_pow_pos 52)

theorem shiftToTargetExponent_eq (m : ℕ) (e : ℤ) (a : UnpackedFloat.Accuracy) :
    UnpackedFloat.shiftToTargetExponent Format.binary64 m e a =
      (ExtendedMantissa.ofMantissaAndAccuracy m a >>> (lastBit m e - e).toNat,
        e + (lastBit m e - e).toNat) := by
  rw [UnpackedFloat.shiftToTargetExponent, targetExponent_eq]
  rfl

theorem dropBits_le_of_lastBit {m : ℕ} {e : ℤ} (he : e ≤ lastBit m e) :
    dropBits m (lastBit m e - e).toNat ≤ 2 ^ 53 := by
  refine dropBits_le ?_
  calc m
    _ ≤ 2 ^ (m.log2 + 1) := Nat.lt_log2_self.le
    _ ≤ 2 ^ (53 + (lastBit m e - e).toNat) :=
        Nat.pow_le_pow_right (by decide) (by unfold lastBit at *; omega)
    _ = 2 ^ 53 * 2 ^ (lastBit m e - e).toNat := pow_add ..

theorem lastBit_ge (m : ℕ) (e : ℤ) : -1074 ≤ lastBit m e := le_max_right _ _

/-- A mantissa that has the size of a double stays as it is. -/
theorem shiftToTargetExponent_of_lt {r : ℕ} {t : ℤ} (hr : r < 2 ^ 53) (ht : -1074 ≤ t) :
    UnpackedFloat.shiftToTargetExponent Format.binary64 r t .exact = (⟨r, false, false⟩, t) := by
  have hlog : r.log2 ≤ 52 := by
    by_cases h0 : r = 0
    · rw [h0]; decide
    · exact Nat.le_of_lt_succ ((Nat.log2_lt h0).mpr hr)
  have hshift : (lastBit r t - t).toNat = 0 := by unfold lastBit; omega
  rw [shiftToTargetExponent_eq, hshift]
  exact congrArg _ (add_zero t)

/-- A mantissa that has grown by a bit loses it, which is a zero. -/
theorem shiftToTargetExponent_of_grown {t : ℤ} (ht : -1074 ≤ t) :
    UnpackedFloat.shiftToTargetExponent Format.binary64 (2 ^ 53) t .exact =
      (⟨2 ^ 52, false, false⟩, t + 1) := by
  have hshift : (lastBit (2 ^ 53) t - t).toNat = 1 := by
    rw [lastBit, Nat.log2_two_pow]
    omega
  rw [shiftToTargetExponent_eq, hshift]
  rfl

/-- Rounding drops the bits below the last one that is kept. -/
theorem roundWithAccuracy_eq_carried (s : Sign) {m r : ℕ} {e : ℤ} {a : UnpackedFloat.Accuracy}
    (he : e ≤ lastBit m e)
    (hrounded : (ExtendedMantissa.ofMantissaAndAccuracy m a >>>
      (lastBit m e - e).toNat).roundedMantissa = r) (hr : r ≤ 2 ^ 53) :
    UnpackedFloat.roundWithAccuracy Format.binary64 s m e a = carried s r (lastBit m e) := by
  have hexp : e + ((lastBit m e - e).toNat : ℤ) = lastBit m e := by omega
  simp only [UnpackedFloat.roundWithAccuracy, shiftToTargetExponent_eq m e, hexp, hrounded]
  rw [carried]
  by_cases hsize : r < 2 ^ 53
  · simp only [shiftToTargetExponent_of_lt hsize (lastBit_ge m e), if_pos hsize]
  · obtain rfl : r = 2 ^ 53 := by omega
    simp only [shiftToTargetExponent_of_grown (lastBit_ge m e), if_neg hsize]
    rfl

theorem roundWithAccuracy_eq (s : Sign) {m : ℕ} {e : ℤ} (he : e ≤ lastBit m e) :
    UnpackedFloat.roundWithAccuracy Format.binary64 s m e .exact =
      carried s (dropBits m (lastBit m e - e).toNat) (lastBit m e) :=
  roundWithAccuracy_eq_carried s he rfl (dropBits_le_of_lastBit he)

theorem log2_mul_two_pow {m : ℕ} (hm : 0 < m) (k : ℕ) : (m * 2 ^ k).log2 = m.log2 + k := by
  have hlow : 2 ^ m.log2 ≤ m := Nat.log2_self_le hm.ne'
  have hhigh : m < 2 ^ (m.log2 + 1) := Nat.lt_log2_self
  refine (Nat.log2_eq_iff (by positivity)).mpr ⟨?_, ?_⟩
  · rw [pow_add]
    exact Nat.mul_le_mul_right _ hlow
  · rw [add_right_comm, pow_add]
    exact Nat.mul_lt_mul_of_pos_right hhigh (Nat.two_pow_pos k)

/-- Rounding `m * 2 ^ e` first lengthens a mantissa that is too short. -/
theorem round_eq (s : Sign) {m : ℕ} (hm : 0 < m) (e : ℤ) :
    UnpackedFloat.round Format.binary64 s m e =
      carried s (dropBits (m * 2 ^ (e - lastBit m e).toNat) (lastBit m e - e).toNat)
        (lastBit m e) := by
  have hlast : lastBit (m * 2 ^ (e - lastBit m e).toNat) (e - (e - lastBit m e).toNat) =
      lastBit m e := by
    unfold lastBit
    rw [log2_mul_two_pow hm]
    omega
  have hdrop : lastBit m e - (e - ((e - lastBit m e).toNat : ℤ)) =
      ((lastBit m e - e).toNat : ℤ) := by
    omega
  have hle : e - ((e - lastBit m e).toNat : ℤ) ≤
      lastBit (m * 2 ^ (e - lastBit m e).toNat) (e - (e - lastBit m e).toNat) := by
    rw [hlast]
    omega
  simp only [UnpackedFloat.round, targetExponent_eq, UnpackedFloat.decreaseExponent,
    Nat.shiftLeft_eq]
  rw [roundWithAccuracy_eq s hle, hlast, hdrop, Int.toNat_natCast]

/-- The double `r * 2 ^ t` is `q` rounded to the grid of doubles: it is on the same side of each
point of the grid. -/
structure Neighbour (q : ℚ) (r : ℕ) (t : ℤ) : Prop where
  size : r ≤ 2 ^ 53
  low : -1074 ≤ t
  normal : t = -1074 ∨ (2 ^ 52 * 2 ^ t : ℚ) ≤ q
  le_of_le : ∀ n : ℕ, (n * 2 ^ t : ℚ) ≤ q → n ≤ r
  ge_of_ge : ∀ n : ℕ, q ≤ n * 2 ^ t → r ≤ n

theorem exists_round (s : Sign) {m : ℕ} (hm : 0 < m) (e : ℤ) :
    ∃ r t, UnpackedFloat.round Format.binary64 s m e = carried s r t ∧
      Neighbour (m * 2 ^ e) r t := by
  refine ⟨_, _, round_eq s hm e, ?_⟩
  have hlow := lastBit_ge m e
  have hlast : lastBit m e = -1074 ∨ 52 + lastBit m e = m.log2 + e := by unfold lastBit; omega
  have hroom : m.log2 + 1 + e ≤ 53 + lastBit m e := by unfold lastBit; omega
  generalize lastBit m e = t at *
  -- in units of the exponent that the shifts meet at, the grid is `n * 2 ^ (t - e).toNat`
  have hscale : ∀ n : ℕ, (n * 2 ^ (t - e).toNat : ℚ) * 2 ^ (t - (t - e).toNat) = n * 2 ^ t := by
    intro n
    rw [mul_assoc, ← zpow_natCast, ← zpow_add₀ (by norm_num)]
    congr 2
    ring
  have hvalue : (m * 2 ^ (e - t).toNat : ℚ) * 2 ^ (t - (t - e).toNat) = m * 2 ^ e := by
    rw [mul_assoc, ← zpow_natCast, ← zpow_add₀ (by norm_num)]
    congr 2
    omega
  have hge : ∀ n : ℕ, (m * 2 ^ e : ℚ) ≤ n * 2 ^ t →
      dropBits (m * 2 ^ (e - t).toNat) (t - e).toNat ≤ n := by
    intro n h
    rw [← hvalue, ← hscale] at h
    exact dropBits_le (by exact_mod_cast le_of_mul_le_mul_right h (by positivity))
  have hself : (2 ^ m.log2 : ℚ) ≤ m := by exact_mod_cast Nat.log2_self_le hm.ne'
  have hself' : (m : ℚ) ≤ 2 ^ (m.log2 + 1) := by exact_mod_cast Nat.lt_log2_self.le
  refine ⟨hge _ ?_, hlow, hlast.imp_right fun h => ?_, fun n h => ?_, hge⟩
  · calc (m * 2 ^ e : ℚ)
      _ ≤ 2 ^ (m.log2 + 1) * 2 ^ e := by gcongr
      _ = 2 ^ ((m.log2 : ℤ) + 1 + e) := by rw [zpow_add₀ (by norm_num)]; norm_cast
      _ ≤ 2 ^ (53 + t) := zpow_le_zpow_right₀ (by norm_num) hroom
      _ = ((2 ^ 53 : ℕ) : ℚ) * 2 ^ t := by rw [zpow_add₀ (by norm_num)]; norm_cast
  · calc (2 ^ 52 * 2 ^ t : ℚ)
      _ = 2 ^ (52 + t) := by rw [zpow_add₀ (by norm_num)]; norm_cast
      _ = 2 ^ m.log2 * 2 ^ e := by rw [h, zpow_add₀ (by norm_num), zpow_natCast]
      _ ≤ m * 2 ^ e := by gcongr
  · rw [← hvalue, ← hscale] at h
    exact le_dropBits (by exact_mod_cast le_of_mul_le_mul_right h (by positivity))

/-! ## Rounding and integers -/

namespace Neighbour

variable {q : ℚ} {r : ℕ} {t : ℤ}

theorem normal_size (h : Neighbour q r t) : t = -1074 ∨ 2 ^ 52 ≤ r :=
  h.normal.imp_right fun hq => h.le_of_le (2 ^ 52) (by exact_mod_cast hq)

/-- A point of the grid stays where it is. -/
theorem eq_of_grid (h : Neighbour q r t) {n : ℕ} (hq : q = n * 2 ^ t) : (r * 2 ^ t : ℚ) = q := by
  have hr : r = n := le_antisymm (h.ge_of_ge n hq.le) (h.le_of_le n hq.ge)
  rw [hr, hq]

/-- Below two to the power of 53 the last bit kept is worth at most one, so that all integers are
points of the grid. -/
theorem exponent_le (h : Neighbour q r t) (hq : q ≤ 2 ^ 53) :
    t ≤ 0 ∨ t = 1 ∧ q = (2 ^ 52 : ℕ) * 2 ^ t := by
  rcases h.normal with rfl | hn
  · exact .inl (by decide)
  · have hpow : (2 ^ (52 + t) : ℚ) ≤ 2 ^ (53 : ℤ) := by
      rw [zpow_add₀ (by norm_num)]
      exact_mod_cast hn.trans hq
    have ht : t ≤ 1 := by
      have := (zpow_le_zpow_iff_right₀ (by norm_num : (1 : ℚ) < 2)).mp hpow
      omega
    refine ht.lt_or_eq.imp Int.le_of_lt_add_one fun h1 => ⟨h1, ?_⟩
    subst h1
    refine le_antisymm (hq.trans_eq (by norm_num)) (by exact_mod_cast hn)

theorem natCast_on_grid (n : ℕ) (ht : t ≤ 0) : ((n * 2 ^ (-t).toNat : ℕ) * 2 ^ t : ℚ) = n := by
  push_cast
  rw [mul_assoc, ← zpow_natCast, ← zpow_add₀ (by norm_num), Int.toNat_of_nonneg (by omega)]
  simp

theorem le_of_natCast_le (h : Neighbour q r t) (hq : q ≤ 2 ^ 53) {n : ℕ} (hn : n ≤ q) :
    (n : ℚ) ≤ r * 2 ^ t := by
  rcases h.exponent_le hq with ht | ⟨-, hgrid⟩
  · rw [← natCast_on_grid n ht] at hn ⊢
    have hle := h.le_of_le _ hn
    gcongr
  · rw [h.eq_of_grid hgrid]
    exact hn

theorem le_natCast_of_le (h : Neighbour q r t) (hq : q ≤ 2 ^ 53) {n : ℕ} (hn : q ≤ n) :
    (r * 2 ^ t : ℚ) ≤ n := by
  rcases h.exponent_le hq with ht | ⟨-, hgrid⟩
  · rw [← natCast_on_grid n ht] at hn ⊢
    have hle := h.ge_of_ge _ hn
    gcongr
  · rw [h.eq_of_grid hgrid]
    exact hn

end Neighbour

/-- Two numbers are on the same side of each integer. -/
def SameSide (q v : ℚ) : Prop := ∀ n : ℤ, (n ≤ q → n ≤ v) ∧ (q ≤ n → v ≤ n)

theorem SameSide.refl (q : ℚ) : SameSide q q := fun _ => ⟨id, id⟩

theorem SameSide.neg {q v : ℚ} (h : SameSide q v) : SameSide (-q) (-v) := by
  intro n
  obtain ⟨hle, hge⟩ := h (-n)
  push_cast at hle hge
  exact ⟨fun hn => le_neg.mpr (hge (le_neg.mp hn)), fun hn => neg_le.mpr (hle (neg_le.mp hn))⟩

theorem Neighbour.sameSide {q : ℚ} {r : ℕ} {t : ℤ} (h : Neighbour q r t) (h0 : 0 ≤ q)
    (hq : q ≤ 2 ^ 53) : SameSide q (r * 2 ^ t) := by
  intro n
  constructor
  · intro hn
    rcases le_or_gt 0 n with hpos | hneg
    · lift n to ℕ using hpos
      exact_mod_cast h.le_of_natCast_le hq (by exact_mod_cast hn)
    · have hn' : (n : ℚ) < 0 := by exact_mod_cast hneg
      exact hn'.le.trans (by positivity)
  · intro hn
    have hpos : 0 ≤ n := by exact_mod_cast h0.trans hn
    lift n to ℕ using hpos
    exact_mod_cast h.le_natCast_of_le hq (by exact_mod_cast hn)

/-! ## Values of unpacked doubles -/

/-- The number of a finite unpacked double. -/
def value : UnpackedFloat → ℚ
  | .finite s m e _ => s.apply m * 2 ^ e
  | _ => 0

theorem place_of_isFinite {u : UnpackedFloat} (h : u.isFinite = true) :
    place u = ((value u : ℚ) : WithTop ℚ) := by
  cases u with
  | zero s => rfl
  | finite s m e h => rfl
  | _ => cases h

/-- A finite canonical double with the number `v`. -/
structure Stands (u : UnpackedFloat) (v : ℚ) : Prop where
  canonical : Canonical u
  isFinite : u.isFinite = true
  value_eq : value u = v

theorem Neighbour.stands_of_exponent_le {q : ℚ} {r : ℕ} {t : ℤ} (h : Neighbour q r t)
    (ht : t ≤ 970) (s : Sign) : Stands (carried s r t) (s.apply r * 2 ^ t) := by
  have hlow := h.low
  unfold carried
  split
  next h0 =>
    refine ⟨.zero s, rfl, ?_⟩
    cases s <;> simp [value, h0, Sign.apply]
  next h0 =>
    split
    next hsize =>
      exact ⟨.finite s _ hsize hlow (by omega) (h.normal_size.symm), rfl, rfl⟩
    next hsize =>
      have hr : r = 2 ^ 53 := le_antisymm h.size (not_lt.mp hsize)
      refine ⟨.finite s _ (by decide) (by omega) (by omega) (.inl le_rfl), rfl, ?_⟩
      rw [hr]
      cases s <;> simp only [value, Sign.apply] <;> push_cast <;>
        rw [zpow_add_one₀ (by norm_num)] <;> ring

theorem Neighbour.stands {q : ℚ} {r : ℕ} {t : ℤ} (h : Neighbour q r t) (hq : q ≤ 2 ^ 53)
    (s : Sign) : Stands (carried s r t) (s.apply r * 2 ^ t) := by
  have ht : t ≤ 1 := (h.exponent_le hq).elim (fun h => h.trans (by decide)) (fun h => h.1.le)
  exact h.stands_of_exponent_le (ht.trans (by decide)) s

theorem stands_round (s : Sign) {m : ℕ} (hm : 0 < m) (e : ℤ) (hq : (m * 2 ^ e : ℚ) ≤ 2 ^ 53) :
    ∃ v, Stands (UnpackedFloat.round Format.binary64 s m e) v ∧ SameSide (s.apply m * 2 ^ e) v := by
  obtain ⟨r, t, hround, h⟩ := exists_round s hm e
  have hside := h.sameSide (by positivity) hq
  rw [hround]
  refine ⟨_, h.stands hq s, ?_⟩
  cases s with
  | positive => simpa [Sign.apply] using hside
  | negative => simpa [Sign.apply] using hside.neg

theorem stands_normalize (m e : ℤ) (z : Sign) (hq : |(m * 2 ^ e : ℚ)| ≤ 2 ^ 53) :
    ∃ v, Stands (UnpackedFloat.normalize Format.binary64 m e z) v ∧ SameSide (m * 2 ^ e) v := by
  unfold UnpackedFloat.normalize
  rcases lt_trichotomy m 0 with hm | rfl | hm
  · obtain ⟨n, rfl⟩ : ∃ n : ℕ, m = -n := ⟨m.natAbs, by omega⟩
    rw [Int.compare_eq_lt.mpr hm, neg_neg, Int.toNat_natCast]
    push_cast at hq ⊢
    rw [neg_mul, abs_neg] at hq
    simpa [Sign.apply] using stands_round .negative (by omega) e ((le_abs_self _).trans hq)
  · exact ⟨0, ⟨.zero z, rfl, rfl⟩, by simpa using SameSide.refl 0⟩
  · lift m to ℕ using hm.le
    rw [Int.compare_eq_gt.mpr hm, Int.toNat_natCast]
    push_cast at hq ⊢
    simpa [Sign.apply] using stands_round .positive (by omega) e ((le_abs_self _).trans hq)

/-! ## Sums -/

theorem apply_neg_sign (s : Sign) (n : ℤ) : (-s).apply n = -s.apply n := by
  cases s
  · exact (neg_neg n).symm
  · rfl

theorem unpacked_sub_eq (u w : UnpackedFloat) :
    UnpackedFloat.sub Format.binary64 u w = UnpackedFloat.add Format.binary64 u w.neg := by
  cases u <;> cases w <;> try rfl
  case finite.finite s m e h s' m' e' h' =>
    simp only [UnpackedFloat.sub, UnpackedFloat.add, UnpackedFloat.neg, apply_neg_sign]
    rfl

theorem Stands.neg {u : UnpackedFloat} {a : ℚ} (h : Stands u a) : Stands u.neg (-a) := by
  obtain ⟨hc, hf, rfl⟩ := h
  cases hc with
  | zero s => exact ⟨.zero _, rfl, neg_zero.symm⟩
  | finite s h size low high normal =>
      refine ⟨.finite _ h size low high normal, rfl, ?_⟩
      simp [value, UnpackedFloat.neg, apply_neg_sign]
  | _ => cases hf

theorem decreaseExponent_value (s : Sign) (m : ℕ) {e t : ℤ} (ht : t ≤ e) :
    (s.apply (UnpackedFloat.decreaseExponent m e t).1 * 2 ^ t : ℚ) = s.apply m * 2 ^ e := by
  have hshift : ((m * 2 ^ (e - t).toNat : ℕ) : ℚ) * 2 ^ t = m * 2 ^ e := by
    push_cast
    rw [mul_assoc, ← zpow_natCast, ← zpow_add₀ (by norm_num)]
    congr 2
    omega
  simp only [UnpackedFloat.decreaseExponent, Nat.shiftLeft_eq]
  cases s with
  | positive => exact_mod_cast hshift
  | negative =>
      simp only [Sign.apply, Int.cast_neg, Int.cast_natCast, neg_mul]
      rw [hshift]

theorem Stands.add {u w : UnpackedFloat} {a b : ℚ} (hu : Stands u a) (hw : Stands w b)
    (hab : |a + b| ≤ 2 ^ 53) :
    ∃ v, Stands (UnpackedFloat.add Format.binary64 u w) v ∧ SameSide (a + b) v := by
  have hu' := hu
  have hw' := hw
  obtain ⟨hcu, hfu, rfl⟩ := hu
  obtain ⟨hcw, hfw, rfl⟩ := hw
  cases hcu with
  | zero s =>
      cases hcw with
      | zero t =>
          -- only the sign of a sum of zeros depends on theirs
          refine ⟨0, ?_, by simpa [value] using SameSide.refl 0⟩
          cases s <;> cases t <;> exact ⟨.zero _, rfl, rfl⟩
      | finite t => exact ⟨_, hw', by simpa [value] using SameSide.refl _⟩
      | _ => cases hfw
  | @finite s m e h =>
      cases hcw with
      | zero t => exact ⟨_, hu', by simpa [value] using SameSide.refl _⟩
      | @finite t n f h' =>
          have hsum : ((s.apply (UnpackedFloat.decreaseExponent m e (min e f)).1 +
              t.apply (UnpackedFloat.decreaseExponent n f (min e f)).1 : ℤ) * 2 ^ min e f : ℚ) =
              s.apply m * 2 ^ e + t.apply n * 2 ^ f := by
            push_cast
            rw [add_mul, decreaseExponent_value s m (min_le_left e f),
              decreaseExponent_value t n (min_le_right e f)]
          have hnorm := stands_normalize _ (min e f) .positive (hsum ▸ hab)
          rw [hsum] at hnorm
          exact hnorm
      | _ => cases hfw
  | _ => cases hfu

/-! ## Sums of doubles -/

section Sums

variable {x y : Float} {a b : ℚ}

theorem stands_unpack (hx : x.isFinite = true) :
    Stands x.toModel.unpack (value x.toModel.unpack) :=
  ⟨canonical_unpack x, hx, rfl⟩

theorem Stands.exact_eq (h : Stands x.toModel.unpack a) : exact x = ((a : ℚ) : WithTop ℚ) := by
  rw [exact_eq_place, place_of_isFinite h.isFinite, h.value_eq]

theorem Stands.pack {u : UnpackedFloat} (h : Stands u a) :
    Stands (Float.Model.pack u).unpack a := by
  rw [unpack_pack h.canonical]
  exact h

/-- A sum of doubles that is at most two to the power of 53 stays on the same side of each
integer when it is rounded. -/
theorem stands_add (hx : Stands x.toModel.unpack a) (hy : Stands y.toModel.unpack b)
    (hab : |a + b| ≤ 2 ^ 53) : ∃ v, Stands (x + y).toModel.unpack v ∧ SameSide (a + b) v := by
  obtain ⟨v, hv, hside⟩ := hx.add hy hab
  exact ⟨v, hv.pack, hside⟩

theorem stands_sub (hx : Stands x.toModel.unpack a) (hy : Stands y.toModel.unpack b)
    (hab : |a - b| ≤ 2 ^ 53) : ∃ v, Stands (x - y).toModel.unpack v ∧ SameSide (a - b) v := by
  rw [sub_eq_add_neg] at hab ⊢
  obtain ⟨v, hv, hside⟩ := hx.add hy.neg hab
  rw [← unpacked_sub_eq] at hv
  exact ⟨v, hv.pack, hside⟩

/-- Infinities absorb what is added to them. -/
theorem unpack_add_of_infinity {s : Sign} (hx : x.toModel.unpack = .infinity s)
    (hy : y.isFinite = true) : (x + y).toModel.unpack = .infinity s := by
  change (Float.Model.pack (UnpackedFloat.add _ x.toModel.unpack y.toModel.unpack)).unpack = _
  change y.toModel.unpack.isFinite = true at hy
  rw [hx]
  cases hu : y.toModel.unpack with
  | zero t => exact unpack_pack (.infinity s)
  | finite t => exact unpack_pack (.infinity s)
  | _ => rw [hu] at hy; cases hy

theorem unpack_sub_of_infinity {s : Sign} (hx : x.toModel.unpack = .infinity s)
    (hy : y.isFinite = true) : (x - y).toModel.unpack = .infinity s := by
  change (Float.Model.pack (UnpackedFloat.sub _ x.toModel.unpack y.toModel.unpack)).unpack = _
  change y.toModel.unpack.isFinite = true at hy
  rw [hx]
  cases hu : y.toModel.unpack with
  | zero t => exact unpack_pack (.infinity s)
  | finite t => exact unpack_pack (.infinity s)
  | _ => rw [hu] at hy; cases hy

end Sums

end MockApi.Double
