import MockApi.Proofs.Number.Rounding

/-! # Shifting by one

One is added to a double, or taken from it, to pass from the numbers beyond it to those that are at
least one away. Where the shift is not lost in rounding no integer beyond is missed, and where it
makes no fraction whole none is passed over.
-/

namespace MockApi

namespace Double

/-- The point of an integer. -/
def point (n : ℤ) : WithBot (WithTop ℚ) := ((n : ℚ) : WithTop ℚ)

theorem point_lt_point {m n : ℤ} : point m < point n ↔ m < n := by
  rw [point, point, WithBot.coe_lt_coe, WithTop.coe_lt_coe, Int.cast_lt]

theorem point_le_point {m n : ℤ} : point m ≤ point n ↔ m ≤ n := by
  rw [point, point, WithBot.coe_le_coe, WithTop.coe_le_coe, Int.cast_le]

theorem point_injective : Function.Injective point := fun m n h => by
  rw [point, point, WithBot.coe_inj, WithTop.coe_inj, Int.cast_inj] at h
  exact h

theorem stands_one : Stands (1 : Float).toModel.unpack 1 :=
  ⟨canonical_unpack 1, rfl, by change ((2 ^ 52 : ℕ) : ℤ) * 2 ^ (-52 : ℤ) = (1 : ℚ); norm_num⟩

/-- Rounding that makes no fraction whole leaves `q + 1` below the integers that it was below. -/
theorem SameSide.lt_add_one {q v : ℚ} (h : SameSide (q + 1) v)
    (hwhole : (∃ k : ℤ, v = k) → ∃ k : ℤ, q = k) {n : ℤ} (hq : q < n) : v < (n + 1 : ℤ) := by
  have hle : v ≤ (n + 1 : ℤ) := (h (n + 1)).2 (by push_cast; linarith)
  refine lt_of_le_of_ne hle fun heq => ?_
  -- a whole sum comes from a whole `q`, which lies at least one below `n`
  obtain ⟨k, rfl⟩ := hwhole ⟨n + 1, heq⟩
  have hk : k + 1 ≤ n := by exact_mod_cast hq
  have hvn : v ≤ n := (h n).2 (by exact_mod_cast hk)
  rw [heq] at hvn
  push_cast at hvn
  linarith

theorem SameSide.sub_one_lt {q v : ℚ} (h : SameSide (q - 1) v)
    (hwhole : (∃ k : ℤ, v = k) → ∃ k : ℤ, q = k) {n : ℤ} (hq : n < q) : (n - 1 : ℤ) < v := by
  have hneg : SameSide (-q + 1) (-v) := by
    have := h.neg
    rwa [neg_sub, sub_eq_neg_add] at this
  have hwhole' : (∃ k : ℤ, -v = k) → ∃ k : ℤ, -q = k := by
    rintro ⟨k, hk⟩
    obtain ⟨l, rfl⟩ := hwhole ⟨-k, by push_cast; linarith⟩
    exact ⟨-l, by push_cast; rfl⟩
  have hlt := hneg.lt_add_one hwhole' (n := -n) (by push_cast; linarith)
  push_cast at hlt ⊢
  linarith

section Shift

variable {x : Float} {n : ℤ} {q : ℚ}

theorem exact_lt_point (h : Stands x.toModel.unpack q) : exact x < point n ↔ q < n := by
  rw [h.exact_eq, point, WithBot.coe_lt_coe, WithTop.coe_lt_coe]

theorem point_lt_exact (h : Stands x.toModel.unpack q) : point n < exact x ↔ n < q := by
  rw [h.exact_eq, point, WithBot.coe_lt_coe, WithTop.coe_lt_coe]

theorem Stands.isWhole_iff (h : Stands x.toModel.unpack q) :
    isWhole x = true ↔ ∃ k : ℤ, q = k := by
  rw [Double.isWhole_iff (isNaN_of_isFinite h.isFinite), h.exact_eq]
  simp only [WithBot.coe_inj, WithTop.coe_inj]

theorem isNaN_add_one (hx : x.isNaN = false) (hr : x.isFinite = true → x < x + 1) :
    (x + 1).isNaN = false := by
  rcases isFinite_or_infinity hx with hf | ⟨s, hs⟩
  · exact (isNaN_of_lt (hr hf)).2
  · rw [isNaN_eq, unpack_add_of_infinity hs rfl]
    rfl

theorem isNaN_sub_one (hx : x.isNaN = false) (hr : x.isFinite = true → x - 1 < x) :
    (x - 1).isNaN = false := by
  rcases isFinite_or_infinity hx with hf | ⟨s, hs⟩
  · exact (isNaN_of_lt (hr hf)).1
  · rw [isNaN_eq, unpack_sub_of_infinity hs rfl]
    rfl

theorem lt_point_of_add_one_le (hx : x.isNaN = false) (hr : x.isFinite = true → x < x + 1)
    (h : exact (x + 1) ≤ point n) : exact x < point n := by
  rcases isFinite_or_infinity hx with hf | ⟨s, hs⟩
  · exact ((lt_iff_exact hx (isNaN_add_one hx hr)).mp (hr hf)).trans_le h
  · rw [exact_eq_place, unpack_add_of_infinity hs rfl] at h
    rw [exact_eq_place, hs]
    exact lt_of_le_of_ne h (by cases s <;> exact nofun)

theorem point_lt_of_le_sub_one (hx : x.isNaN = false) (hr : x.isFinite = true → x - 1 < x)
    (h : point n ≤ exact (x - 1)) : point n < exact x := by
  rcases isFinite_or_infinity hx with hf | ⟨s, hs⟩
  · exact h.trans_lt ((lt_iff_exact (isNaN_sub_one hx hr) hx).mp (hr hf))
  · rw [exact_eq_place, unpack_sub_of_infinity hs rfl] at h
    rw [exact_eq_place, hs]
    exact lt_of_le_of_ne h (by cases s <;> exact nofun)

/-- An infinity, or a double that is at most one away from the integers which all are doubles. -/
def IsSafe (x : Float) : Prop := ∀ q : ℚ, exact x = ((q : ℚ) : WithTop ℚ) → |q| ≤ 2 ^ 53 - 1

theorem add_one_lt_point (hx : x.isNaN = false) (hsafe : IsSafe x)
    (hwhole : isWhole (x + 1) = true → isWhole x = true) (h : exact x < point n) :
    exact (x + 1) < point (n + 1) := by
  rcases isFinite_or_infinity hx with hf | ⟨s, hs⟩
  · have hstands := stands_unpack hf
    generalize value x.toModel.unpack = q at hstands
    have hq := abs_le.mp (hsafe q hstands.exact_eq)
    obtain ⟨v, hv, hside⟩ := stands_add hstands stands_one
      (abs_le.mpr ⟨by linarith, by linarith⟩)
    rw [hv.isWhole_iff, hstands.isWhole_iff] at hwhole
    rw [exact_lt_point hstands] at h
    rw [exact_lt_point hv]
    exact hside.lt_add_one hwhole h
  · rw [exact_eq_place, hs] at h
    rw [exact_eq_place, unpack_add_of_infinity hs rfl]
    cases s with
    | negative => exact WithBot.bot_lt_coe _
    | positive => exact absurd h not_top_lt

theorem point_lt_sub_one (hx : x.isNaN = false) (hsafe : IsSafe x)
    (hwhole : isWhole (x - 1) = true → isWhole x = true) (h : point n < exact x) :
    point (n - 1) < exact (x - 1) := by
  rcases isFinite_or_infinity hx with hf | ⟨s, hs⟩
  · have hstands := stands_unpack hf
    generalize value x.toModel.unpack = q at hstands
    have hq := abs_le.mp (hsafe q hstands.exact_eq)
    obtain ⟨v, hv, hside⟩ := stands_sub hstands stands_one
      (abs_le.mpr ⟨by linarith, by linarith⟩)
    rw [hv.isWhole_iff, hstands.isWhole_iff] at hwhole
    rw [point_lt_exact hstands] at h
    rw [point_lt_exact hv]
    exact hside.sub_one_lt hwhole h
  · rw [exact_eq_place, hs] at h
    rw [exact_eq_place, unpack_sub_of_infinity hs rfl]
    cases s with
    | negative => exact absurd h not_lt_bot
    | positive => exact WithBot.coe_lt_coe.mpr (WithTop.coe_lt_top _)

end Shift

end Double

end MockApi
