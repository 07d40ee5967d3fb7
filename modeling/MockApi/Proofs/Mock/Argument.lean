import MockApi.Mock.GeneratorCall
import MockApi.Proofs.Number.ReadBack

/-! # Number arguments

A bound is written as an argument of a call: as an integer where it is a moderate one, else with the
shortest digits. Both are read as the bound, but the sign of zero is lost.
-/

namespace MockApi.Capability

open Double
open Decimal.Text
open Float.Model
open UnpackedFloat (Sign)

section

variable {x : Float} {p : Parts}

theorem unpack_abs {s : Sign} {m : ℕ} {e : ℤ} {h : 0 < m}
    (hx : x.toModel.unpack = .finite s m e h) : x.abs.toModel.unpack = .finite .positive m e h := by
  have hcanonical := canonical_unpack x
  rw [hx] at hcanonical
  change (Float.Model.pack x.toModel.unpack.abs).unpack = _
  rw [hx]
  cases hcanonical with
  | finite _ _ size low high normal => exact unpack_pack (.finite _ h size low high normal)

/-- A double below ten to the power of fifteen. -/
theorem toRat_lt_of_lt (hx : x.isFinite = true) (h : x < 1e15) : toRat x < 10 ^ 15 := by
  have hbound : toRat 1e15 = 10 ^ 15 :=
    toRat_of_parts (p := ⟨false, 5 ^ 15 * 2 ^ 18, -3⟩) rfl (by norm_num [Parts.signed])
  rw [← hbound]
  exact (toRat_lt_toRat hx (by decide)).mpr h

theorem toList_toString_int (n : ℤ) :
    (toString n).toList = (if n < 0 then ['-'] else []) ++ Nat.toDigits 10 n.natAbs := by
  cases n with
  | ofNat n =>
      have hn : ¬ Int.ofNat n < 0 := Int.not_lt.mpr (Int.natCast_nonneg n)
      rw [if_neg hn]
      exact Nat.toList_repr
  | negSucc n =>
      rw [if_pos (Int.negSucc_lt_zero n)]
      change ("-" ++ Nat.repr (n + 1)).toList = _
      rw [String.toList_append, Nat.toList_repr]
      rfl

/-- A moderate whole double is the integer that it is converted to. -/
theorem toInt64_of_whole (hp : parts? x = some p) (hm : 0 < p.mantissa)
    (hwhole : isWhole x = true) (habs : x.abs < 1e15) :
    (toInt64 x < 0 ↔ p.negative = true) ∧
      ((toInt64 x).natAbs : ℚ) = p.mantissa * 2 ^ p.exponent := by
  obtain ⟨s, hunpack, hnegative⟩ := exists_unpack_of_parts hp hm
  obtain ⟨n, hn⟩ := exists_stands_of_isWhole hwhole
  have hmagnitude : (0 : ℚ) < p.mantissa * 2 ^ p.exponent :=
    mul_pos (by exact_mod_cast hm) (two_zpow_pos _)
  have hvalue : (s.apply p.mantissa * 2 ^ p.exponent : ℚ) = n := by
    rw [← hn.value_eq, hunpack]
    rfl
  have hnat : (n.natAbs : ℚ) = p.mantissa * 2 ^ p.exponent := by
    rw [Nat.cast_natAbs, Int.cast_abs, ← hvalue, abs_mul, ← Int.cast_abs, abs_apply,
      abs_of_pos (two_zpow_pos _), Int.cast_natCast]
  have hfinite : x.abs.isFinite = true := by
    change x.abs.toModel.unpack.isFinite = true
    rw [unpack_abs hunpack]
    rfl
  have hsmall : n.natAbs < 10 ^ 15 := by
    have h := toRat_lt_of_lt hfinite habs
    rw [toRat, unpack_abs hunpack] at h
    exact_mod_cast hnat.trans_lt h
  have hclamp : toInt64 x = n := by
    have hlow : minInt64 = -2 ^ 63 := rfl
    have hhigh : maxInt64 = 2 ^ 63 - 1 := rfl
    rw [toInt64_of_stands hn, clampInt64]
    omega
  rw [hclamp]
  refine ⟨?_, hnat⟩
  rw [hnegative]
  have hsign : n < 0 ↔ (s.apply p.mantissa * 2 ^ p.exponent : ℚ) < 0 := by
    rw [hvalue]
    exact_mod_cast Iff.rfl
  rw [hsign]
  cases s with
  | positive => exact iff_of_false (not_lt.mpr hmagnitude.le) (by decide)
  | negative =>
      refine iff_of_true ?_ rfl
      simpa [Sign.apply] using hmagnitude

/-- The argument is an optional sign and digits that spell a number of the interval of the bound. -/
theorem exists_spells_argument (hp : parts? x = some p) (hm : 0 < p.mantissa)
    (size : p.mantissa < 2 ^ 53) :
    ∃ cs q, (argument x).toList = (if p.negative then ['-'] else []) ++ cs ∧ Spells cs q ∧
      p.interval.Holds q := by
  unfold argument
  split
  next h =>
    obtain ⟨hwhole, habs⟩ := Bool.and_eq_true_iff.mp h
    obtain ⟨hsign, hvalue⟩ := toInt64_of_whole hp hm hwhole (of_decide_eq_true habs)
    refine ⟨_, _, ?_, spells_toDigits (toInt64 x).natAbs, ?_⟩
    · rw [toList_toString_int, if_congr hsign rfl rfl]
    · have hcenter : 4 * p.mantissa * 2 ^ (p.exponent - 2) = (p.mantissa * 2 ^ p.exponent : ℚ) := by
        rw [two_zpow_eq_mul_four p.exponent]
        ring
      have hbelow : (0 : ℚ) < p.quartersBelow := by
        unfold Parts.quartersBelow
        split <;> norm_num
      refine p.holds_of_abs_lt hm ?_
      rw [hvalue, hcenter, sub_self, abs_zero]
      exact mul_pos hbelow (two_zpow_pos _)
  next =>
    refine ⟨_, p.shortest.toRat, ?_, spells_positional p.shortest.digits p.shortest.exponent,
      p.holds_shortest hm size⟩
    rw [Layout.render, hp]
    exact String.toList_ofList

end

/-- The bound with a negative zero as zero. -/
def plainZero (x : Float) : Float := if x == 0 then 0 else x

theorem unpack_zero_cases {x : Float} {s : Sign} (h : x.toModel.unpack = .zero s) :
    x = 0 ∨ x = -0 := by
  cases s with
  | positive => exact .inl (unpack_injective h)
  | negative => exact .inr (unpack_injective h)

theorem beq_zero_of_finite {x : Float} {s : Sign} {m : ℕ} {e : ℤ} {h : 0 < m}
    (hx : x.toModel.unpack = .finite s m e h) : (x == 0) = false := by
  change x.toModel.unpack.beq _ = false
  rw [hx]
  cases s <;> rfl

/-- A zero of either sign, or a number with digits that are not zero. -/
theorem zero_or_parts {x : Float} (hx : x.isFinite = true) :
    (x = 0 ∨ x = -0) ∨ ∃ s m e h, x.toModel.unpack = .finite s m e h ∧ m < 2 ^ 53 ∧
      parts? x = some ⟨s == .negative, m, e⟩ := by
  have hcanonical := canonical_unpack x
  change x.toModel.unpack.isFinite = true at hx
  rw [parts?_eq]
  cases hu : x.toModel.unpack with
  | zero s => exact .inl (unpack_zero_cases hu)
  | finite s m e h =>
      rw [hu] at hcanonical
      cases hcanonical with
      | finite _ _ size => exact .inr ⟨s, m, e, h, rfl, size, rfl⟩
  | _ => rw [hu] at hx; cases hx

theorem argument_zero : argument 0 = "0" ∧ argument (-0) = "0" := by
  decide +kernel

/-- An argument is digits that spell a number, behind a minus sign where the bound is negative. -/
theorem exists_text_argument {x : Float} (hx : x.isFinite = true) :
    ∃ negative cs q, (argument x).toList = (if negative then ['-'] else []) ++ cs ∧ Spells cs q ∧
      (negative = true → ¬ 0 < x) := by
  rcases zero_or_parts hx with hzero | ⟨s, m, e, hm, hunpack, hsize, hparts⟩
  · have htext : argument x = "0" := by
      rcases hzero with rfl | rfl
      · exact argument_zero.1
      · exact argument_zero.2
    exact ⟨false, _, _, by rw [htext]; rfl, spells_toDigits 0, nofun⟩
  · obtain ⟨cs, q, htext, hspells, -⟩ := exists_spells_argument hparts hm hsize
    refine ⟨_, cs, q, htext, hspells, fun hnegative => ?_⟩
    rw [lt_eq, hunpack]
    cases s with
    | positive => cases hnegative
    | negative => exact Bool.false_ne_true

/-- The argument of a bound is read as the bound. -/
theorem toFloat?_argument {x : Float} (hx : x.isFinite = true) :
    toFloat? (argument x).toList = some (plainZero x) := by
  rcases zero_or_parts hx with (rfl | rfl) | ⟨s, m, e, hm, hunpack, hsize, hparts⟩
  · decide +kernel
  · decide +kernel
  · obtain ⟨cs, q, htext, hspells, hholds⟩ := exists_spells_argument hparts hm hsize
    rw [htext, toFloat?_of_spells hparts hm hspells hholds, plainZero, beq_zero_of_finite hunpack]
    rfl

/-- An infinite step is written as a word. -/
theorem argument_of_infinite {x : Float} (hx : x.isFinite = false) (hpos : 0 < x) :
    argument x = "inf" := by
  have hparts : parts? x = none := by
    change x.toModel.unpack.isFinite = false at hx
    rw [parts?_eq]
    cases hu : x.toModel.unpack with
    | zero | finite => rw [hu] at hx; cases hx
    | _ => rfl
  have hwhole : isWhole x = false := by
    rw [isWhole, hparts]
  have hrender : Layout.plain.render x = "inf" := by
    rw [Layout.render, hparts]
    exact if_pos hpos
  rw [argument, hwhole, hrender]
  rfl

theorem plainZero_of_pos {x : Float} (hx : x.isFinite = true) (hpos : 0 < x) : plainZero x = x := by
  rcases zero_or_parts hx with (rfl | rfl) | ⟨s, m, e, hm, hunpack, -, -⟩
  · exact absurd hpos (by decide)
  · exact absurd hpos (by decide)
  · rw [plainZero, beq_zero_of_finite hunpack]
    rfl

/-- The sign of zero does not tell doubles apart. -/
theorem plainZero_beq {x : Float} (hx : x.isFinite = true) : (plainZero x == x) = true := by
  rcases zero_or_parts hx with (rfl | rfl) | ⟨s, m, e, hm, hunpack, -, -⟩
  · decide
  · decide
  · rw [plainZero, beq_zero_of_finite hunpack]
    have hnan := isNaN_of_isFinite hx
    rw [Float.isNaN_eq_decide_eq_nan, decide_eq_false_iff_not] at hnan
    exact Float.beq_self_iff.mpr hnan

end MockApi.Capability
