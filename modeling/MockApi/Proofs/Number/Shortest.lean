import MockApi.Number.Shortest
import MockApi.Proofs.Number.Rounds

/-! # Shortest decimals round back

The digits that are written for a double spell a number of its rounding interval, and every number
of the interval is rounded to the double. Seventeen digits are always enough: a grid that fine has a
point closer to the double than half of the distance to the next one.
-/

namespace MockApi

open Float.Model
open UnpackedFloat (Sign)

/-- The number that the digits spell. -/
def Decimal.toRat (d : Decimal) : ℚ := d.digits * 10 ^ d.exponent

/-- Zeros that move into the exponent leave the number as it is. -/
theorem Decimal.toRat_trim (fuel : ℕ) (d : Decimal) : (d.trim fuel).toRat = d.toRat := by
  induction fuel generalizing d with
  | zero => rfl
  | succ fuel ih =>
      unfold Decimal.trim
      split
      next h =>
        have hdigits : (d.digits : ℚ) = (d.digits / 10 : ℕ) * 10 := by
          exact_mod_cast (Nat.div_mul_cancel (Nat.dvd_of_mod_eq_zero h.2)).symm
        rw [ih, Decimal.toRat, Decimal.toRat, hdigits, zpow_add_one₀ (by norm_num)]
        ring
      next => rfl

namespace Double

/-! ## The rounding interval -/

/-- The interval has the number. -/
def Parts.Interval.Holds (i : Parts.Interval) (q : ℚ) : Prop :=
  if i.closed then (i.low : ℚ) ≤ q * i.denominator ∧ q * i.denominator ≤ i.high
  else (i.low : ℚ) < q * i.denominator ∧ q * i.denominator < i.high

instance (i : Parts.Interval) (q : ℚ) : Decidable (i.Holds q) :=
  inferInstanceAs (Decidable
    (if i.closed then (i.low : ℚ) ≤ q * i.denominator ∧ q * i.denominator ≤ i.high
    else (i.low : ℚ) < q * i.denominator ∧ q * i.denominator < i.high))

section

variable {p : Parts} {q : ℚ} {r k : ℕ} {t u : ℤ}

theorem Nearest.exponent_le (h : Nearest q r t) (h' : Nearest q k u) : t ≤ u := by
  by_contra hlt
  have hnormal := h.normal.resolve_left (by have := h'.low; omega)
  have hcontra : q < q := calc q
    _ < 2 ^ 53 * 2 ^ u := h'.size
    _ = 2 ^ 52 * 2 ^ (u + 1) := by rw [zpow_add_one₀ (by norm_num)]; ring
    _ ≤ 2 ^ 52 * 2 ^ t := by gcongr; exacts [by norm_num, by omega]
    _ ≤ q := hnormal
  exact lt_irrefl q hcontra

theorem Nearest.unique (h : Nearest q r t) (h' : Nearest q k u) : r = k ∧ t = u := by
  obtain rfl := le_antisymm (h.exponent_le h') (h'.exponent_le h)
  exact ⟨h'.nearest.unique h.nearest, rfl⟩

/-- Quarters of a unit from the double down to the end of its interval. -/
def Parts.quartersBelow (p : Parts) : ℕ :=
  if p.mantissa = 2 ^ 52 ∧ p.exponent ≠ -1074 then 1 else 2

/-- The scale of an interval is a quarter of the unit, over its denominator. -/
theorem two_zpow_mul_twoTo (e : ℤ) :
    (2 ^ e * (twoTo (-e).toNat : ℕ) : ℚ) = (twoTo e.toNat : ℕ) := by
  simp only [twoTo, Nat.pow_eq]
  push_cast
  rw [← zpow_natCast, ← zpow_natCast, ← zpow_add₀ (by norm_num)]
  congr 1
  omega

/-- The interval in quarters of the unit of the double. -/
theorem Parts.holds_interval_iff :
    p.interval.Holds q ↔
      if p.mantissa % 2 = 0 then
        ((4 * p.mantissa - p.quartersBelow : ℕ) : ℚ) ≤ q / 2 ^ (p.exponent - 2) ∧
          q / 2 ^ (p.exponent - 2) ≤ (4 * p.mantissa + 2 : ℕ)
      else
        ((4 * p.mantissa - p.quartersBelow : ℕ) : ℚ) < q / 2 ^ (p.exponent - 2) ∧
          q / 2 ^ (p.exponent - 2) < (4 * p.mantissa + 2 : ℕ) := by
  have hquarters : (if p.mantissa = twoTo 52 ∧ p.exponent ≠ -1074 then 1 else 2) =
      p.quartersBelow := rfl
  have hden : (0 : ℚ) < (twoTo (-(p.exponent - 2)).toNat : ℕ) := by
    exact_mod_cast Nat.two_pow_pos _
  have hunit := two_zpow_pos (p.exponent - 2)
  have hpoint (n : ℕ) : ((n * twoTo (p.exponent - 2).toNat : ℕ) : ℚ) =
      n * 2 ^ (p.exponent - 2) * (twoTo (-(p.exponent - 2)).toNat : ℕ) := by
    rw [Nat.cast_mul, mul_assoc, two_zpow_mul_twoTo]
  unfold Parts.Interval.Holds Parts.interval
  simp only [hquarters, hpoint, mul_le_mul_iff_left₀ hden, mul_lt_mul_iff_left₀ hden,
    le_div_iff₀ hunit, div_le_iff₀ hunit, lt_div_iff₀ hunit, div_lt_iff₀ hunit,
    decide_eq_true_iff]

theorem Parts.bounds_of_holds (hm : 0 < p.mantissa) (h : p.interval.Holds q) :
    (4 * p.mantissa - p.quartersBelow : ℚ) ≤ q / 2 ^ (p.exponent - 2) ∧
      q / 2 ^ (p.exponent - 2) ≤ 4 * p.mantissa + 2 ∧
      ((4 * p.mantissa - p.quartersBelow : ℚ) = q / 2 ^ (p.exponent - 2) ∨
        q / 2 ^ (p.exponent - 2) = 4 * p.mantissa + 2 → p.mantissa % 2 = 0) := by
  have hbelow : p.quartersBelow ≤ 4 * p.mantissa := by
    unfold Parts.quartersBelow
    split <;> omega
  rw [Parts.holds_interval_iff, Nat.cast_sub hbelow] at h
  push_cast at h
  split at h
  next heven => exact ⟨h.1, h.2, fun _ => heven⟩
  next => exact ⟨h.1.le, h.2.le, fun hends => (hends.elim h.1.ne h.2.ne).elim⟩

theorem two_zpow_sub_one (e : ℤ) : (2 ^ (e - 1) : ℚ) = 2 ^ (e - 2) * 2 := by
  rw [← zpow_add_one₀ (by norm_num)]
  congr 1
  ring

theorem two_zpow_eq_mul_four (e : ℤ) : (2 ^ e : ℚ) = 2 ^ (e - 2) * 4 := by
  have hsum : e = e - 2 + 2 := by ring
  conv_lhs => rw [hsum, zpow_add₀ (by norm_num)]
  norm_num

/-- The double is the point nearest to each number of its interval. From a power of two downwards
the points are closer together, and the power ends their grid. -/
theorem Parts.nearest_of_holds (hm : 0 < p.mantissa) (size : p.mantissa < 2 ^ 53)
    (low : -1074 ≤ p.exponent) (normal : 2 ^ 52 ≤ p.mantissa ∨ p.exponent = -1074)
    (hq : p.interval.Holds q) :
    Nearest q p.mantissa p.exponent ∨
      p.mantissa = 2 ^ 52 ∧ Nearest q (2 ^ 53) (p.exponent - 1) := by
  obtain ⟨hlow, hhigh, hends⟩ := p.bounds_of_holds hm hq
  have hunit := two_zpow_pos (p.exponent - 2)
  have hm' : (1 : ℚ) ≤ p.mantissa := by exact_mod_cast hm
  have hsize : (p.mantissa + 1 : ℚ) ≤ 2 ^ 53 := by exact_mod_cast size
  have hbelow : (p.quartersBelow : ℚ) ≤ 2 := by
    unfold Parts.quartersBelow
    split <;> norm_num
  obtain ⟨x, hx⟩ : ∃ x, q / 2 ^ (p.exponent - 2) = x := ⟨_, rfl⟩
  obtain rfl : q = x * 2 ^ (p.exponent - 2) := (div_eq_iff hunit.ne').mp hx
  rw [hx] at hlow hhigh hends
  have hnonneg : 0 ≤ x := by linarith
  by_cases hbinade : p.exponent = -1074 ∨ (2 ^ 54 : ℚ) ≤ x
  · refine .inl ⟨by positivity, low, hbinade.imp_right fun h => ?_, ?_, ?_⟩
    · rw [two_zpow_eq_mul_four p.exponent]
      nlinarith
    · rw [two_zpow_eq_mul_four p.exponent]
      nlinarith
    · rw [two_zpow_eq_mul_four p.exponent, mul_comm x, mul_div_mul_left _ _ hunit.ne']
      refine ⟨abs_le.mpr ⟨by linarith, by linarith⟩, fun h => hends ?_⟩
      rcases abs_choice (x / 4 - p.mantissa) with hsign | hsign <;> rw [hsign] at h
      · exact .inr (by linarith)
      · exact .inl (by linarith)
  · obtain ⟨hexponent, hx54⟩ := not_or.mp hbinade
    have hx54 := not_le.mp hx54
    have hnormal : 2 ^ 52 ≤ p.mantissa := normal.resolve_right hexponent
    have hmantissa : p.mantissa = 2 ^ 52 := by
      by_contra hne
      have hlarge : (2 ^ 52 + 1 : ℚ) ≤ p.mantissa := by
        exact_mod_cast lt_of_le_of_ne hnormal (Ne.symm hne)
      linarith
    have hone : (p.quartersBelow : ℚ) = 1 := by
      rw [Parts.quartersBelow, if_pos ⟨hmantissa, hexponent⟩, Nat.cast_one]
    rw [hone, hmantissa] at hlow
    push_cast at hlow
    refine .inr ⟨hmantissa, by positivity, by omega, .inr ?_, ?_, ?_⟩
    · rw [two_zpow_sub_one]
      nlinarith
    · rw [two_zpow_sub_one]
      nlinarith
    · rw [two_zpow_sub_one, mul_comm x, mul_div_mul_left _ _ hunit.ne']
      push_cast
      exact ⟨abs_le.mpr ⟨by linarith, by linarith⟩, fun _ => rfl⟩

/-- A number of the interval is rounded to the double. -/
theorem Nearest.carried_eq (h : Nearest q r t) (s : Sign) (hm : 0 < p.mantissa)
    (size : p.mantissa < 2 ^ 53) (low : -1074 ≤ p.exponent)
    (normal : 2 ^ 52 ≤ p.mantissa ∨ p.exponent = -1074) (hq : p.interval.Holds q) :
    carried s r t = .finite s p.mantissa p.exponent hm := by
  rcases Parts.nearest_of_holds hm size low normal hq with h' | ⟨hmantissa, h'⟩
  · obtain ⟨rfl, rfl⟩ := h.unique h'
    rw [carried, dif_neg hm.ne', if_pos size]
  · obtain ⟨rfl, rfl⟩ := h.unique h'
    rw [carried, dif_neg (by decide), if_neg (lt_irrefl _)]
    simp only [hmantissa, sub_add_cancel]

theorem Parts.pos_of_holds (hm : 0 < p.mantissa) (hq : p.interval.Holds q) : 0 < q := by
  obtain ⟨hlow, -, -⟩ := p.bounds_of_holds hm hq
  have hm' : (1 : ℚ) ≤ p.mantissa := by exact_mod_cast hm
  have hbelow : (p.quartersBelow : ℚ) ≤ 2 := by
    unfold Parts.quartersBelow
    split <;> norm_num
  have hpos : 0 < q / 2 ^ (p.exponent - 2) := by linarith
  exact (div_pos_iff_of_pos_right (two_zpow_pos _)).mp hpos

/-- The rounded result of a number of the interval is the double. -/
theorem Rounds.eq_finite {w : UnpackedFloat} (h : Rounds q w) (hm : 0 < p.mantissa)
    (hp : Canonical (.finite .positive p.mantissa p.exponent hm)) (hq : p.interval.Holds q) :
    w = .finite .positive p.mantissa p.exponent hm := by
  obtain ⟨s, a, r, t, hfactor, hr, rfl⟩ := h
  have hpos := p.pos_of_holds hm hq
  cases hp with
  | finite _ _ size low high normal =>
      cases s with
      | negative =>
          have := hr.nonneg
          rw [hfactor, factor] at hpos
          linarith
      | positive =>
          obtain rfl : q = a := hfactor.trans (one_mul a)
          rw [hr.carried_eq .positive hm size low normal hq]
          exact unpack_pack (.finite _ _ size low high normal)

end

/-! ## Points of a decimal grid -/

namespace Parts.Interval

variable {i : Parts.Interval} {e : ℤ}

theorem ten_zpow_eq_div (e : ℤ) : (10 ^ e : ℚ) = tenTo e.toNat / tenTo (-e).toNat := by
  have hup : ((tenTo (-e).toNat : ℕ) : ℚ) ≠ 0 := by
    have : 0 < tenTo (-e).toNat := Nat.pow_pos (by norm_num)
    exact_mod_cast this.ne'
  rw [eq_div_iff hup]
  simp only [tenTo, Nat.pow_eq]
  push_cast
  rw [← zpow_natCast, ← zpow_natCast, ← zpow_add₀ (by norm_num)]
  congr 1
  omega

/-- The test on the grid is the test of the interval. -/
theorem holds_grid_iff (i : Parts.Interval) (e : ℤ) (d : ℕ) :
    i.Holds (Decimal.toRat ⟨d, e⟩) ↔
      if i.closed then
        i.low * tenTo (-e).toNat ≤ d * (i.denominator * tenTo e.toNat) ∧
          d * (i.denominator * tenTo e.toNat) ≤ i.high * tenTo (-e).toNat
      else
        i.low * tenTo (-e).toNat < d * (i.denominator * tenTo e.toNat) ∧
          d * (i.denominator * tenTo e.toNat) < i.high * tenTo (-e).toNat := by
  have hup : (0 : ℚ) < tenTo (-e).toNat := by
    have : 0 < tenTo (-e).toNat := Nat.pow_pos (by norm_num)
    exact_mod_cast this
  have hpoint : (Decimal.toRat ⟨d, e⟩) * i.denominator =
      (d * (i.denominator * tenTo e.toNat) : ℕ) / tenTo (-e).toNat := by
    rw [Decimal.toRat, ten_zpow_eq_div]
    push_cast
    ring
  rw [Holds, hpoint, le_div_iff₀ hup, div_le_iff₀ hup, lt_div_iff₀ hup, div_lt_iff₀ hup]
  norm_cast

/-- Of two neighbours the nearer one is within half a step. -/
theorem abs_sub_le_half {lower step value : ℚ} {below above : ℕ}
    (hbelow : lower * step + below = value) (habove : value + above = (lower + 1) * step) :
    (below ≤ above → |lower * step - value| ≤ step / 2) ∧
      (above ≤ below → |(lower + 1) * step - value| ≤ step / 2) := by
  constructor <;> intro hle
  all_goals
    rw [← Nat.cast_le (α := ℚ)] at hle
    rw [abs_le]
    constructor <;> linarith

/-- The two neighbours on the grid are tried, the nearer one first. -/
theorem exists_onGrid?_eq (hd : 0 < i.denominator) (e : ℤ) :
    ∃ first second : ℕ,
      |Decimal.toRat ⟨first, e⟩ - i.value / i.denominator| ≤ 10 ^ e / 2 ∧
      i.onGrid? e =
        if i.Holds (Decimal.toRat ⟨first, e⟩) then some ⟨first, e⟩
        else if i.Holds (Decimal.toRat ⟨second, e⟩) then some ⟨second, e⟩
        else none := by
  unfold onGrid?
  extract_lets up down value unit lower test below above first second
  have htest (n : ℕ) : test n = decide (i.Holds (Decimal.toRat ⟨n, e⟩)) := by
    simp only [holds_grid_iff, test, unit, up, down]
    split <;> simp
  refine ⟨first, second, ?_, by simp only [htest, decide_eq_true_iff]⟩
  have hup : (0 : ℚ) < up := by
    have : 0 < up := Nat.pow_pos (by norm_num)
    exact_mod_cast this
  have hd' : (0 : ℚ) < i.denominator := by exact_mod_cast hd
  have hunit : 0 < unit := Nat.mul_pos hd (Nat.pow_pos (by norm_num))
  have hlower : (lower * unit + below : ℚ) = value := by
    have : lower * unit + below = value := Nat.add_sub_cancel' (Nat.div_mul_le_self value unit)
    exact_mod_cast this
  have hupper : (value + above : ℚ) = (lower + 1) * unit := by
    have : value + above = (lower + 1) * unit :=
      Nat.add_sub_cancel' ((Nat.div_lt_iff_lt_mul hunit).mp (Nat.lt_succ_self _)).le
    exact_mod_cast this
  have hnear : |(first * unit - value : ℚ)| ≤ unit / 2 := by
    by_cases hfirst : (below < above || (below == above && lower % 2 == 0)) = true
    · have hle : below ≤ above := by
        simp only [Bool.or_eq_true, Bool.and_eq_true, decide_eq_true_iff, beq_iff_eq] at hfirst
        exact hfirst.elim Nat.le_of_lt fun h => h.1.le
      rw [show first = lower from if_pos hfirst]
      exact (abs_sub_le_half hlower hupper).1 hle
    · have hle : above ≤ below := by
        simp only [Bool.or_eq_true, decide_eq_true_iff, not_or] at hfirst
        exact not_lt.mp hfirst.1
      rw [show first = lower + 1 from if_neg hfirst, Nat.cast_add_one]
      exact (abs_sub_le_half hlower hupper).2 hle
  have hunit' : (unit : ℚ) = i.denominator * down := Nat.cast_mul _ _
  have hvalue' : (value : ℚ) = i.value * up := Nat.cast_mul _ _
  have hten : (10 ^ e : ℚ) = down / up := ten_zpow_eq_div e
  have hdistance : Decimal.toRat ⟨first, e⟩ - i.value / i.denominator =
      (first * unit - value) / (i.denominator * up) := by
    rw [Decimal.toRat, hten, hunit', hvalue']
    field_simp
  have hhalf : (10 ^ e / 2 : ℚ) = unit / 2 / (i.denominator * up) := by
    rw [hten, hunit']
    field_simp
  rw [hdistance, hhalf, abs_div, abs_of_pos (mul_pos hd' hup)]
  gcongr

/-- A decimal that is found on a grid is a number of the interval. -/
theorem holds_of_onGrid? {d : Decimal} (hd : 0 < i.denominator) (h : i.onGrid? e = some d) :
    i.Holds d.toRat := by
  obtain ⟨first, second, -, heq⟩ := exists_onGrid?_eq hd e
  rw [heq] at h
  split at h
  next hfirst =>
    obtain rfl := Option.some.inj h
    exact hfirst
  next =>
    split at h
    next hsecond =>
      obtain rfl := Option.some.inj h
      exact hsecond
    next => cases h

theorem ten_pow_width_le {n : ℕ} (hn : 0 < n) : 10 ^ (Decimal.width n - 1) ≤ n := by
  rcases Nat.eq_zero_or_pos (Decimal.width n - 1) with hwidth | hwidth
  · rw [hwidth]
    exact hn
  · by_contra hlt
    have hle := (Nat.length_toDigits_le_iff (b := 10) (by norm_num) hwidth).mpr (not_le.mp hlt)
    unfold Decimal.width at *
    omega

theorem lt_ten_pow_width (n : ℕ) : n < 10 ^ Decimal.width n :=
  (Nat.length_toDigits_le_iff (by norm_num) Nat.length_toDigits_pos).mp le_rfl

/-- The power of ten below the magnitude is not above the value. -/
theorem ten_zpow_magnitude_le (hv : 0 < i.value) (hd : 0 < i.denominator) :
    (10 ^ (i.magnitude - 1) : ℚ) ≤ i.value / i.denominator := by
  have hv' : (0 : ℚ) < i.value := by exact_mod_cast hv
  have hd' : (0 : ℚ) < i.denominator := by exact_mod_cast hd
  -- below one the digits of the inverse are counted
  have hinverse (k : ℕ) (h : i.denominator ≤ i.value * tenTo k) :
      (10 ^ (-(k : ℤ)) : ℚ) ≤ i.value / i.denominator := by
    rw [zpow_neg, zpow_natCast, inv_eq_one_div, div_le_div_iff₀ (by positivity) hd', one_mul]
    exact_mod_cast h
  unfold magnitude
  split
  next hle =>
    have hquotient : 0 < i.value / i.denominator := Nat.div_pos hle hd
    have hexponent : (Decimal.width (i.value / i.denominator) : ℤ) - 1 =
        (Decimal.width (i.value / i.denominator) - 1 : ℕ) := by
      have : 0 < Decimal.width (i.value / i.denominator) := Nat.length_toDigits_pos
      omega
    rw [hexponent, zpow_natCast]
    calc (10 ^ (Decimal.width (i.value / i.denominator) - 1) : ℚ)
      _ ≤ (i.value / i.denominator : ℕ) := by exact_mod_cast ten_pow_width_le hquotient
      _ ≤ i.value / i.denominator := Nat.cast_div_le
  next hlt =>
    extract_lets k
    have hk : 0 < k := Nat.length_toDigits_pos
    split
    next hpower =>
      have hexponent : (2 - k - 1 : ℤ) = -(k - 1 : ℕ) := by omega
      rw [hexponent]
      exact hinverse _ hpower
    next =>
      have hexponent : (1 - k - 1 : ℤ) = -k := by ring
      rw [hexponent]
      refine hinverse _ ?_
      rw [mul_comm]
      exact ((Nat.div_lt_iff_lt_mul hv).mp (lt_ten_pow_width _)).le

/-- Seventeen digits are always enough. -/
theorem exists_onGrid?_seventeen (hd : 0 < i.denominator)
    (hnear : ∀ q : ℚ, |q - i.value / i.denominator| ≤
      10 ^ (i.magnitude - (17 : ℕ)) / 2 → i.Holds q) :
    ∃ d, i.onGrid? (i.magnitude - (17 : ℕ)) = some d := by
  obtain ⟨first, second, hfirst, heq⟩ := exists_onGrid?_eq hd (i.magnitude - (17 : ℕ))
  exact ⟨_, heq.trans (if_pos (hnear _ hfirst))⟩

theorem holds_shortest (hd : 0 < i.denominator) {last fuel count : ℕ}
    (hlast : ∃ d, i.onGrid? (i.magnitude - last) = some d) (hcount : count ≤ last)
    (hfuel : last < count + fuel) : i.Holds (i.shortest fuel count).toRat := by
  induction fuel generalizing count with
  | zero => omega
  | succ fuel ih =>
      unfold shortest
      split
      next d h =>
        rw [Decimal.toRat_trim]
        exact holds_of_onGrid? hd h
      next h =>
        refine ih (lt_of_le_of_ne hcount ?_) (by omega)
        rintro rfl
        obtain ⟨d, hd⟩ := hlast
        rw [hd] at h
        cases h

end Parts.Interval

section

variable {p : Parts} {q : ℚ}

theorem Parts.denominator_pos (p : Parts) : 0 < p.interval.denominator := Nat.two_pow_pos _

theorem Parts.value_div_denominator (p : Parts) :
    (p.interval.value / p.interval.denominator : ℚ) = 4 * p.mantissa * 2 ^ (p.exponent - 2) := by
  have hdenominator : (0 : ℚ) < p.interval.denominator := by exact_mod_cast p.denominator_pos
  rw [div_eq_iff hdenominator.ne', mul_assoc]
  unfold interval
  rw [two_zpow_mul_twoTo]
  push_cast
  rfl

/-- A number that is closer than the next double on either side is one of the interval. -/
theorem Parts.holds_of_abs_lt (hm : 0 < p.mantissa)
    (h : |q - 4 * p.mantissa * 2 ^ (p.exponent - 2)| < p.quartersBelow * 2 ^ (p.exponent - 2)) :
    p.interval.Holds q := by
  have hbelow : p.quartersBelow ≤ 4 * p.mantissa := by
    unfold Parts.quartersBelow
    split <;> omega
  have hbelow' : (p.quartersBelow : ℚ) ≤ 2 := by
    unfold Parts.quartersBelow
    split <;> norm_num
  have hunit := two_zpow_pos (p.exponent - 2)
  obtain ⟨x, hx⟩ : ∃ x, q / 2 ^ (p.exponent - 2) = x := ⟨_, rfl⟩
  obtain rfl : q = x * 2 ^ (p.exponent - 2) := (div_eq_iff hunit.ne').mp hx
  rw [← sub_mul, abs_mul, abs_of_pos hunit, mul_lt_mul_iff_left₀ hunit, abs_lt] at h
  rw [Parts.holds_interval_iff, hx, Nat.cast_sub hbelow]
  push_cast
  split <;> constructor <;> linarith

theorem Parts.holds_shortest (hm : 0 < p.mantissa) (size : p.mantissa < 2 ^ 53) :
    p.interval.Holds p.shortest.toRat := by
  have hvalue : 0 < p.interval.value :=
    Nat.mul_pos (Nat.mul_pos (by norm_num) hm) (Nat.two_pow_pos _)
  rw [shortest, if_neg hm.ne']
  have hcount : 1 ≤ 17 := by norm_num
  refine Interval.holds_shortest p.denominator_pos
    (Interval.exists_onGrid?_seventeen p.denominator_pos fun q hq => ?_) hcount (by norm_num)
  have hpower := Interval.ten_zpow_magnitude_le hvalue p.denominator_pos
  have hstep : (10 ^ (p.interval.magnitude - (17 : ℕ)) : ℚ) =
      10 ^ (p.interval.magnitude - 1) / 10 ^ 16 := by
    rw [← zpow_natCast, ← zpow_sub₀ (by norm_num)]
    congr 1
    push_cast
    ring
  rw [p.value_div_denominator] at hq hpower
  rw [hstep] at hq
  refine p.holds_of_abs_lt hm (hq.trans_lt ?_)
  have hquarters : (2 * p.mantissa : ℚ) < p.quartersBelow * 10 ^ 16 := by
    unfold Parts.quartersBelow
    split
    next h =>
      rw [h.1]
      norm_num
    next =>
      have hsize : (p.mantissa : ℚ) < 2 ^ 53 := by exact_mod_cast size
      push_cast
      linarith
  calc (10 ^ (p.interval.magnitude - 1) / 10 ^ 16 / 2 : ℚ)
    _ ≤ 4 * p.mantissa * 2 ^ (p.exponent - 2) / 10 ^ 16 / 2 := by gcongr
    _ = 2 * p.mantissa / 10 ^ 16 * 2 ^ (p.exponent - 2) := by ring
    _ < p.quartersBelow * 2 ^ (p.exponent - 2) := by
      have hunit := two_zpow_pos (p.exponent - 2)
      gcongr
      exact (div_lt_iff₀ (by norm_num)).mpr hquarters

end

end Double

end MockApi
