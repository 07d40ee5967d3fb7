import MockApi.Proofs.Number.Product

/-! # Rounding to the nearest double

Products, quotients and integers are computed exactly and rounded once. The exact result fixes the
last bit that is kept and with it a grid of doubles, and the rounded result is the nearest point of
that grid, the even one of two. Rounding keeps the order of numbers and leaves doubles where they
are.
-/

namespace MockApi.Double

open Float.Model
open UnpackedFloat (ExtendedMantissa Sign Accuracy)

/-! ## The nearest integer -/

/-- The integer nearest to `x`, the even one of two. -/
structure IsNearest (x : ℚ) (r : ℕ) : Prop where
  near : |x - r| ≤ 1 / 2
  even : |x - r| = 1 / 2 → r % 2 = 0

namespace IsNearest

variable {x y : ℚ} {r k : ℕ}

theorem mono (hx : IsNearest x r) (hy : IsNearest y k) (h : x ≤ y) : r ≤ k := by
  by_contra hlt
  have hgap : (k + 1 : ℚ) ≤ r := by exact_mod_cast not_le.mp hlt
  have hxr := abs_le.mp hx.near
  have hyk := abs_le.mp hy.near
  -- only a common midpoint of two neighbours is left, and one of these is odd
  have hr : r % 2 = 0 := hx.even (by rw [abs_sub_comm, abs_of_nonneg] <;> linarith)
  have hk : k % 2 = 0 := hy.even (by rw [abs_of_nonneg] <;> linarith)
  have hrk : (r : ℚ) = (k + 1 : ℕ) := by push_cast; linarith
  have hrk' : r = k + 1 := by exact_mod_cast hrk
  omega

theorem unique (hr : IsNearest x r) (hk : IsNearest x k) : k = r :=
  le_antisymm (hk.mono hr le_rfl) (hr.mono hk le_rfl)

theorem natCast (n : ℕ) : IsNearest n n := by
  constructor <;> simp

theorem le_of_lt {n : ℕ} (h : IsNearest x r) (hx : x < n) : r ≤ n :=
  h.mono (natCast n) hx.le

end IsNearest

/-! ## Residual bits -/

/-- The fractions that a round bit and a sticky bit stand for. -/
def FractionIn : Bool → Bool → ℚ → Prop
  | false, false, f => f = 0
  | false, true, f => 0 < f ∧ f < 1 / 2
  | true, false, f => f = 1 / 2
  | true, true, f => 1 / 2 < f ∧ f < 1

namespace FractionIn

variable {r s : Bool} {f : ℚ}

theorem bounds (h : FractionIn r s f) : 0 ≤ f ∧ f < 1 := by
  cases r <;> cases s
  · obtain rfl : f = 0 := h
    norm_num
  · exact ⟨h.1.le, h.2.trans (by norm_num)⟩
  · obtain rfl : f = 1 / 2 := h
    norm_num
  · exact ⟨(by norm_num : (0 : ℚ) ≤ 1 / 2).trans h.1.le, h.2⟩

theorem eq_zero_or_pos (h : FractionIn r s f) :
    (r || s) = false ∧ f = 0 ∨ (r || s) = true ∧ 0 < f := by
  cases r <;> cases s
  · exact .inl ⟨rfl, h⟩
  · exact .inr ⟨rfl, h.1⟩
  · obtain rfl : f = 1 / 2 := h
    exact .inr ⟨rfl, by norm_num⟩
  · exact .inr ⟨rfl, (by norm_num : (0 : ℚ) < 1 / 2).trans h.1⟩

/-- One more bit becomes the round bit, and the old ones become the sticky bit. -/
theorem halve (h : FractionIn r s f) {bit : ℕ} (hbit : bit = 0 ∨ bit = 1) :
    FractionIn (bit != 0) (r || s) ((bit + f) / 2) := by
  have hf := h.bounds
  rcases h.eq_zero_or_pos with ⟨hs, rfl⟩ | ⟨hs, hpos⟩ <;> rw [hs] <;>
    rcases hbit with rfl | rfl
  · change ((0 : ℕ) + 0 : ℚ) / 2 = 0
    norm_num
  · change ((1 : ℕ) + 0 : ℚ) / 2 = 1 / 2
    norm_num
  · rw [Nat.cast_zero]
    exact ⟨by linarith, by linarith⟩
  · rw [Nat.cast_one]
    exact ⟨by linarith, by linarith⟩

end FractionIn

/-- A number that has been cut to an integer with two residual bits. -/
def Locates (a : ExtendedMantissa) (x : ℚ) : Prop :=
  FractionIn a.roundBit a.stickyBit (x - a.mantissa)

namespace Locates

variable {a : ExtendedMantissa} {x : ℚ}

theorem shiftRightOne (h : Locates a x) : Locates a.shiftRightOne (x / 2) := by
  have hm : (a.mantissa : ℚ) = (a.mantissa % 2 : ℕ) + 2 * (a.mantissa / 2 : ℕ) := by
    exact_mod_cast (Nat.mod_add_div a.mantissa 2).symm
  have hfraction : x / 2 - (a.mantissa / 2 : ℕ) =
      ((a.mantissa % 2 : ℕ) + (x - a.mantissa)) / 2 := by
    rw [hm]
    ring
  unfold Locates ExtendedMantissa.shiftRightOne
  rw [hfraction]
  exact h.halve (by omega)

theorem shiftRight (h : Locates a x) (k : ℕ) : Locates (a >>> k) (x / 2 ^ k) := by
  induction k with
  | zero =>
      rw [pow_zero, div_one]
      exact h
  | succ k ih =>
      rw [shiftRight_succ, pow_succ, ← div_div]
      exact ih.shiftRightOne

theorem isNearest (h : Locates a x) : IsNearest x a.roundedMantissa := by
  obtain ⟨m, r, s⟩ := a
  have hround : ∀ n : ℕ, |x - n| < 1 / 2 → IsNearest x n := fun n hn =>
    ⟨hn.le, fun heq => absurd heq hn.ne⟩
  cases r <;> cases s
  · obtain rfl : x = m := sub_eq_zero.mp h
    exact .natCast m
  · obtain ⟨hlow, hhigh⟩ : 0 < x - m ∧ x - m < 1 / 2 := h
    exact hround m (abs_lt.mpr ⟨by linarith, hhigh⟩)
  · have hx : x - m = 1 / 2 := h
    have hbit : m % 2 = 0 ∨ m % 2 = 1 := by omega
    rcases hbit with hbit | hbit
    · have hm : (ExtendedMantissa.mk m true false).roundedMantissa = m :=
        (congrArg (m + ·) hbit).trans (Nat.add_zero m)
      rw [hm]
      exact ⟨by rw [hx]; norm_num, fun _ => hbit⟩
    · have hm : (ExtendedMantissa.mk m true false).roundedMantissa = m + 1 :=
        congrArg (m + ·) hbit
      have hx' : x - (m + 1 : ℕ) = -(1 / 2) := by push_cast; linarith
      rw [hm]
      exact ⟨by rw [hx']; norm_num, fun _ => by omega⟩
  · obtain ⟨hlow, hhigh⟩ : 1 / 2 < x - m ∧ x - m < 1 := h
    refine hround (m + 1) (abs_lt.mpr ?_)
    push_cast
    exact ⟨by linarith, by linarith⟩

theorem bounds (h : Locates a x) : (a.mantissa : ℚ) ≤ x ∧ x < a.mantissa + 1 :=
  ⟨sub_nonneg.mp (FractionIn.bounds h).1, sub_lt_iff_lt_add'.mp (FractionIn.bounds h).2⟩

theorem exact (m : ℕ) : Locates (.ofMantissaAndAccuracy m .exact) m := sub_self (m : ℚ)

theorem fraction (m : ℕ) {n d : ℕ} (hn : n < d) :
    Locates (.ofMantissaAndAccuracy m (UnpackedFloat.accuracyOfFraction n d)) (m + n / d) := by
  have hd : (0 : ℚ) < d := by exact_mod_cast (Nat.zero_le n).trans_lt hn
  have hdiff : (m + n / d - m : ℚ) = n / d := by ring
  unfold Locates UnpackedFloat.accuracyOfFraction
  split
  next hzero =>
    change (m + n / d - m : ℚ) = 0
    rw [hdiff, hzero, Nat.cast_zero, zero_div]
  next hzero =>
    have hpos : (0 : ℚ) < n / d := by
      have : (0 : ℚ) < n := by exact_mod_cast Nat.pos_of_ne_zero hzero
      positivity
    have hone : (n / d : ℚ) < 1 := (div_lt_one hd).mpr (by exact_mod_cast hn)
    rcases lt_trichotomy (2 * n) d with h | h | h
    · have hhalf : (n / d : ℚ) < 1 / 2 := by
        rw [div_lt_div_iff₀ hd two_pos]
        exact_mod_cast (by omega : n * 2 < 1 * d)
      rw [compare_lt_iff_lt.mpr h]
      change 0 < (m + n / d - m : ℚ) ∧ (m + n / d - m : ℚ) < 1 / 2
      rw [hdiff]
      exact ⟨hpos, hhalf⟩
    · have hhalf : (n / d : ℚ) = 1 / 2 := by
        rw [div_eq_div_iff hd.ne' two_ne_zero]
        exact_mod_cast (by omega : n * 2 = 1 * d)
      rw [compare_eq_iff_eq.mpr h]
      exact hdiff.trans hhalf
    · have hhalf : (1 / 2 : ℚ) < n / d := by
        rw [div_lt_div_iff₀ two_pos hd]
        exact_mod_cast (by omega : 1 * d < n * 2)
      rw [compare_gt_iff_gt.mpr h]
      change 1 / 2 < (m + n / d - m : ℚ) ∧ (m + n / d - m : ℚ) < 1
      rw [hdiff]
      exact ⟨hhalf, hone⟩

end Locates

/-! ## The nearest point of the grid -/

/-- The point `r * 2 ^ t` of the grid is the nearest one to `q`, and `t` is the last bit that a
double near `q` keeps. -/
structure Nearest (q : ℚ) (r : ℕ) (t : ℤ) : Prop where
  nonneg : 0 ≤ q
  low : -1074 ≤ t
  normal : t = -1074 ∨ (2 ^ 52 * 2 ^ t : ℚ) ≤ q
  size : q < 2 ^ 53 * 2 ^ t
  nearest : IsNearest (q / 2 ^ t) r

theorem nearest_zero : Nearest 0 0 (-1074) where
  nonneg := le_rfl
  low := le_rfl
  normal := .inl rfl
  size := by positivity
  nearest := by
    rw [zero_div]
    exact .natCast 0

namespace Nearest

variable {p q : ℚ} {r k : ℕ} {t u : ℤ}

theorem le_two_pow (h : Nearest q r t) : r ≤ 2 ^ 53 := by
  refine h.nearest.le_of_lt ?_
  rw [div_lt_iff₀ (by positivity)]
  exact_mod_cast h.size

theorem neighbour (h : Nearest q r t) : Neighbour q r t where
  size := h.le_two_pow
  low := h.low
  normal := h.normal
  le_of_le n hn := IsNearest.mono (.natCast n) h.nearest ((le_div_iff₀ (by positivity)).mpr hn)
  ge_of_ge n hn := IsNearest.mono h.nearest (.natCast n) ((div_le_iff₀ (by positivity)).mpr hn)

/-- Rounding keeps the order. -/
theorem mono (h : Nearest p r t) (h' : Nearest q k u) (hpq : p ≤ q) :
    (r * 2 ^ t : ℚ) ≤ k * 2 ^ u := by
  have hr : (r : ℚ) ≤ 2 ^ 53 := by exact_mod_cast h.le_two_pow
  rcases lt_trichotomy t u with htu | rfl | htu
  · have hk : (2 ^ 52 : ℚ) ≤ k := by
      exact_mod_cast h'.neighbour.normal_size.resolve_left (by have := h.low; omega)
    calc (r * 2 ^ t : ℚ)
      _ ≤ 2 ^ 53 * 2 ^ t := by gcongr
      _ = 2 ^ 52 * 2 ^ (t + 1) := by rw [zpow_add_one₀ (by norm_num)]; ring
      _ ≤ 2 ^ 52 * 2 ^ u := by gcongr; exacts [by norm_num, htu]
      _ ≤ k * 2 ^ u := by gcongr
  · have hle : r ≤ k := h.nearest.mono h'.nearest (by gcongr)
    gcongr
  · -- the larger exponent would put the smaller number above the larger one
    have hp := h.normal.resolve_left (by have := h'.low; omega)
    have hlt : q < p := calc q
      _ < 2 ^ 53 * 2 ^ u := h'.size
      _ = 2 ^ 52 * 2 ^ (u + 1) := by rw [zpow_add_one₀ (by norm_num)]; ring
      _ ≤ 2 ^ 52 * 2 ^ t := by gcongr; exacts [by norm_num, htu]
      _ ≤ p := hp
    exact absurd hpq (not_le.mpr hlt)

end Nearest

/-- A mantissa with residual bits is rounded to the nearest point of its grid. -/
theorem exists_nearest_of_locates (s : Sign) {m : ℕ} {e : ℤ} {a : Accuracy} {x : ℚ}
    (hx : Locates (.ofMantissaAndAccuracy m a) x) (he : e ≤ lastBit m e) :
    ∃ r t, UnpackedFloat.roundWithAccuracy Format.binary64 s m e a = carried s r t ∧
      Nearest (x * 2 ^ e) r t := by
  have hmantissa : (ExtendedMantissa.ofMantissaAndAccuracy m a).mantissa = m := by
    cases a with
    | exact => rfl
    | inexact o => cases o <;> rfl
  obtain ⟨hlow, hhigh⟩ : (m : ℚ) ≤ x ∧ x < m + 1 := hmantissa ▸ hx.bounds
  obtain ⟨k, hk⟩ := Int.eq_ofNat_of_zero_le (sub_nonneg.mpr he)
  have hscale : x * 2 ^ e / 2 ^ lastBit m e = x / 2 ^ k := by
    rw [mul_div_assoc, ← zpow_sub₀ (by norm_num), ← neg_sub, hk, zpow_neg]
    exact (div_eq_mul_inv _ _).symm
  have hshift : (lastBit m e - e).toNat = k := by omega
  have hnear := (hx.shiftRight k).isNearest
  have hlast : lastBit m e = -1074 ∨ 52 + lastBit m e = m.log2 + e := by unfold lastBit; omega
  have hroom : m.log2 + 1 + e ≤ 53 + lastBit m e := by unfold lastBit; omega
  have hnormal : lastBit m e = -1074 ∨ (2 ^ 52 * 2 ^ lastBit m e : ℚ) ≤ x * 2 ^ e := by
    rcases Nat.eq_zero_or_pos m with rfl | hm
    · refine hlast.imp_right fun h => ?_
      rw [Nat.log2_zero] at h
      omega
    · have hself : (2 ^ m.log2 : ℚ) ≤ m := by exact_mod_cast Nat.log2_self_le hm.ne'
      refine hlast.imp_right fun h => ?_
      calc (2 ^ 52 * 2 ^ lastBit m e : ℚ)
        _ = 2 ^ (52 + lastBit m e) := by rw [zpow_add₀ (by norm_num)]; norm_cast
        _ = 2 ^ m.log2 * 2 ^ e := by rw [h, zpow_add₀ (by norm_num), zpow_natCast]
        _ ≤ x * 2 ^ e := by gcongr; exact hself.trans hlow
  have hsize : x * 2 ^ e < 2 ^ 53 * 2 ^ lastBit m e := by
    have hself : (m + 1 : ℚ) ≤ 2 ^ (m.log2 + 1) := by exact_mod_cast Nat.lt_log2_self
    calc x * 2 ^ e
      _ < 2 ^ (m.log2 + 1) * 2 ^ e := by gcongr; exact hhigh.trans_le hself
      _ = 2 ^ ((m.log2 : ℤ) + 1 + e) := by rw [zpow_add₀ (by norm_num)]; norm_cast
      _ ≤ 2 ^ (53 + lastBit m e) := zpow_le_zpow_right₀ (by norm_num) hroom
      _ = 2 ^ 53 * 2 ^ lastBit m e := by rw [zpow_add₀ (by norm_num)]; norm_cast
  have hnonneg : 0 ≤ x := (Nat.cast_nonneg m).trans hlow
  have h : Nearest (x * 2 ^ e) _ (lastBit m e) :=
    ⟨by positivity, lastBit_ge m e, hnormal, hsize, hscale ▸ hnear⟩
  exact ⟨_, _, roundWithAccuracy_eq_carried s he (by rw [hshift]) h.le_two_pow, h⟩

end MockApi.Double
