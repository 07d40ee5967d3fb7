import MockApi.Proofs.Number.Canonical

/-! # The numbers that doubles stand for

A double other than NaN is a point of the rational line closed by both infinities. Comparing two
doubles is comparing their points, and the smaller and the larger of two doubles lie at the smaller
and the larger point.
-/

namespace MockApi.Double

open Float.Model

/-- The point of a double on the rational line with both infinities as its ends. NaN, which is
nowhere on the line, is put at zero. -/
def exact (x : Float) : WithBot (WithTop ℚ) :=
  match parts? x with
  | some p => ((p.signed * 2 ^ p.exponent : ℚ) : WithTop ℚ)
  | none => if x > 0 then ⊤ else if x < 0 then ⊥ else 0

/-- The point of an unpacked double. -/
def place : UnpackedFloat → WithBot (WithTop ℚ)
  | .finite s m e _ => ((s.apply m * 2 ^ e : ℚ) : WithTop ℚ)
  | .infinity .positive => ⊤
  | .infinity .negative => ⊥
  | .zero _ | .notANumber => 0

theorem lt_eq (x y : Float) : x < y ↔ x.toModel.unpack.lt y.toModel.unpack = true := by
  change decide (x.toModel.unpack.lt y.toModel.unpack = true) = true ↔ _
  rw [decide_eq_true_iff]

theorem le_eq (x y : Float) : x ≤ y ↔ x.toModel.unpack.le y.toModel.unpack = true := by
  change decide (x.toModel.unpack.le y.toModel.unpack = true) = true ↔ _
  rw [decide_eq_true_iff]

theorem signed_mk (s : UnpackedFloat.Sign) (m : ℕ) (e : ℤ) :
    Parts.signed ⟨s == .negative, m, e⟩ = s.apply m := by
  cases s <;> rfl

theorem exact_eq_place (x : Float) : exact x = place x.toModel.unpack := by
  have hzero : (0 : Float).toModel.unpack = .zero .positive := rfl
  unfold exact
  simp only [parts?_eq, lt_eq, GT.gt, hzero]
  cases x.toModel.unpack with
  | notANumber => rfl
  | infinity s => cases s <;> rfl
  | zero s => cases s <;> simp [partsOf, place, Parts.signed]
  | finite s m e h => simp only [partsOf, place, signed_mk]

theorem isNaN_eq (x : Float) : x.isNaN = x.toModel.unpack.isNaN := rfl

theorem isFinite_or_infinity {x : Float} (hx : x.isNaN = false) :
    x.isFinite = true ∨ ∃ s, x.toModel.unpack = .infinity s := by
  change x.toModel.unpack.isNaN = false at hx
  change x.toModel.unpack.isFinite = true ∨ _
  cases hu : x.toModel.unpack with
  | notANumber => rw [hu] at hx; cases hx
  | infinity s => exact .inr ⟨s, rfl⟩
  | _ => exact .inl rfl

theorem isNaN_of_isFinite {x : Float} (hx : x.isFinite = true) : x.isNaN = false := by
  change x.toModel.unpack.isFinite = true at hx
  rw [isNaN_eq]
  cases hu : x.toModel.unpack with
  | notANumber => rw [hu] at hx; cases hx
  | _ => rfl

/-! ## Order -/

/-- Of two canonical magnitudes the one with the smaller exponent is the smaller. -/
theorem magnitude_lt_of_exponent_lt {m n : ℕ} {e f : ℤ} (hm : m < 2 ^ 53) (he : -1074 ≤ e)
    (hn : 2 ^ 52 ≤ n ∨ f = -1074) (hef : e < f) : (m * 2 ^ e : ℚ) < n * 2 ^ f := by
  have hm' : (m : ℚ) < 2 ^ 53 := by exact_mod_cast hm
  have hn' : (2 ^ 52 : ℚ) ≤ n := by exact_mod_cast hn.resolve_right (by omega)
  calc (m * 2 ^ e : ℚ)
    _ < 2 ^ 53 * 2 ^ e := by gcongr
    _ = 2 ^ 52 * 2 ^ (e + 1) := by rw [zpow_add_one₀ (by norm_num)]; ring
    _ ≤ 2 ^ 52 * 2 ^ f := by gcongr; exacts [by norm_num, hef]
    _ ≤ n * 2 ^ f := by gcongr

theorem compares_magnitude {m n : ℕ} {e f : ℤ} (hm : m < 2 ^ 53) (hn : n < 2 ^ 53)
    (he : -1074 ≤ e) (hf : -1074 ≤ f) (hm' : 2 ^ 52 ≤ m ∨ e = -1074)
    (hn' : 2 ^ 52 ≤ n ∨ f = -1074) :
    ((compare e f).then (compare m n)).Compares (m * 2 ^ e : ℚ) (n * 2 ^ f) := by
  rcases lt_trichotomy e f with hef | rfl | hef
  · rw [compare_lt_iff_lt.mpr hef]
    exact magnitude_lt_of_exponent_lt hm he hn' hef
  · rw [compare_eq_iff_eq.mpr rfl]
    rcases lt_trichotomy m n with hmn | rfl | hmn
    · rw [compare_lt_iff_lt.mpr hmn]
      exact mul_lt_mul_of_pos_right (by exact_mod_cast hmn) (by positivity)
    · rw [compare_eq_iff_eq.mpr rfl]
      exact rfl
    · rw [compare_gt_iff_gt.mpr hmn]
      exact mul_lt_mul_of_pos_right (by exact_mod_cast hmn) (by positivity)
  · rw [compare_gt_iff_gt.mpr hef]
    exact magnitude_lt_of_exponent_lt hn hf hm' hef

theorem compares_neg {o : Ordering} {a b : ℚ} (h : o.Compares a b) :
    o.swap.Compares (-a) (-b) := by
  cases o with
  | lt => exact neg_lt_neg (show a < b from h)
  | eq => exact congrArg _ (show a = b from h)
  | gt => exact neg_lt_neg (show b < a from h)

theorem compares_coe {o : Ordering} {a b : ℚ} (h : o.Compares a b) :
    o.Compares ((a : WithTop ℚ) : WithBot (WithTop ℚ)) ((b : WithTop ℚ) : WithBot (WithTop ℚ)) := by
  cases o with
  | lt => exact WithBot.coe_lt_coe.mpr (WithTop.coe_lt_coe.mpr h)
  | eq => exact congrArg (fun q : ℚ => ((q : WithTop ℚ) : WithBot (WithTop ℚ))) h
  | gt => exact WithBot.coe_lt_coe.mpr (WithTop.coe_lt_coe.mpr h)

theorem place_positive_pos {m : ℕ} (h : 0 < m) (e : ℤ) : 0 < place (.finite .positive m e h) := by
  have hq : (0 : ℚ) < m * 2 ^ e := by positivity
  exact WithBot.coe_lt_coe.mpr (WithTop.coe_lt_coe.mpr hq)

theorem place_negative_neg {m : ℕ} (h : 0 < m) (e : ℤ) : place (.finite .negative m e h) < 0 := by
  have hq : (0 : ℚ) < m * 2 ^ e := by positivity
  have hq' : ((-m : ℤ) * 2 ^ e : ℚ) < 0 := by push_cast; linarith
  exact WithBot.coe_lt_coe.mpr (WithTop.coe_lt_coe.mpr hq')

/-- Comparing canonical parts is comparing their points. -/
theorem exists_compare {u w : UnpackedFloat} (hu : Canonical u) (hw : Canonical w)
    (hu' : u.isNaN = false) (hw' : w.isNaN = false) :
    ∃ o, u.compare w = some o ∧ o.Compares (place u) (place w) := by
  have hbot : ∀ q : ℚ, (⊥ : WithBot (WithTop ℚ)) < ((q : WithTop ℚ) : WithBot (WithTop ℚ)) :=
    fun q => WithBot.bot_lt_coe _
  have htop : ∀ q : ℚ, ((q : WithTop ℚ) : WithBot (WithTop ℚ)) < ⊤ :=
    fun q => WithBot.coe_lt_coe.mpr (WithTop.coe_lt_top q)
  -- in order, the points are: an infinity, the negative ones, zero, the positive ones, an infinity
  cases hu with
  | notANumber => cases hu'
  | infinity s =>
      cases hw with
      | notANumber => cases hw'
      | infinity t =>
          cases s <;> cases t
          · exact ⟨.eq, rfl, rfl⟩
          · exact ⟨.lt, rfl, bot_lt_top⟩
          · exact ⟨.gt, rfl, bot_lt_top⟩
          · exact ⟨.eq, rfl, rfl⟩
      | zero t =>
          cases s
          · exact ⟨.lt, rfl, hbot 0⟩
          · exact ⟨.gt, rfl, htop 0⟩
      | finite t h size low high normal =>
          cases s
          · exact ⟨.lt, rfl, hbot _⟩
          · exact ⟨.gt, rfl, htop _⟩
  | zero s =>
      cases hw with
      | notANumber => cases hw'
      | infinity t =>
          cases t
          · exact ⟨.gt, rfl, hbot 0⟩
          · exact ⟨.lt, rfl, htop 0⟩
      | zero t => exact ⟨.eq, rfl, rfl⟩
      | finite t h size low high normal =>
          cases t
          · exact ⟨.gt, rfl, place_negative_neg h _⟩
          · exact ⟨.lt, rfl, place_positive_pos h _⟩
  | finite s h size low high normal =>
      cases hw with
      | notANumber => cases hw'
      | infinity t =>
          cases t
          · cases s <;> exact ⟨.gt, rfl, hbot _⟩
          · cases s <;> exact ⟨.lt, rfl, htop _⟩
      | zero t =>
          cases s
          · exact ⟨.lt, rfl, place_negative_neg h _⟩
          · exact ⟨.gt, rfl, place_positive_pos h _⟩
      | finite t h' size' low' high' normal' =>
          have hm := compares_magnitude size size' low low' normal normal'
          cases s <;> cases t
          · refine ⟨_, rfl, compares_coe ?_⟩
            simpa [UnpackedFloat.Sign.apply] using compares_neg hm
          · exact ⟨.lt, rfl, (place_negative_neg h _).trans (place_positive_pos h' _)⟩
          · exact ⟨.gt, rfl, (place_negative_neg h' _).trans (place_positive_pos h _)⟩
          · exact ⟨_, rfl, compares_coe hm⟩

section Order

variable {x y : Float}

theorem lt_iff_exact (hx : x.isNaN = false) (hy : y.isNaN = false) :
    x < y ↔ exact x < exact y := by
  obtain ⟨o, ho, hc⟩ := exists_compare (canonical_unpack x) (canonical_unpack y) hx hy
  rw [lt_eq, UnpackedFloat.lt, ho, exact_eq_place, exact_eq_place]
  cases o with
  | lt => exact iff_of_true rfl hc
  | eq => exact iff_of_false (by decide) (not_lt_of_ge (le_of_eq (Eq.symm hc)))
  | gt => exact iff_of_false (by decide) (not_lt_of_gt hc)

theorem le_iff_exact (hx : x.isNaN = false) (hy : y.isNaN = false) :
    x ≤ y ↔ exact x ≤ exact y := by
  obtain ⟨o, ho, hc⟩ := exists_compare (canonical_unpack x) (canonical_unpack y) hx hy
  rw [le_eq, UnpackedFloat.le, ho, exact_eq_place, exact_eq_place]
  cases o with
  | lt => exact iff_of_true rfl (le_of_lt hc)
  | eq => exact iff_of_true rfl (le_of_eq hc)
  | gt => exact iff_of_false (by decide) (not_le_of_gt hc)

theorem compare_of_isNaN_left {u w : UnpackedFloat} (hu : u.isNaN = true) :
    u.compare w = none := by
  cases u with
  | notANumber => rfl
  | _ => cases hu

theorem compare_of_isNaN_right {u w : UnpackedFloat} (hw : w.isNaN = true) :
    u.compare w = none := by
  cases w with
  | notANumber => cases u <;> rfl
  | _ => cases hw

theorem not_lt_of_isNaN (h : x.isNaN = true ∨ y.isNaN = true) : ¬ x < y := by
  have hnone : x.toModel.unpack.compare y.toModel.unpack = none :=
    h.elim compare_of_isNaN_left compare_of_isNaN_right
  rw [lt_eq, UnpackedFloat.lt, hnone]
  decide

theorem isNaN_of_lt {y : Float} (h : x < y) : x.isNaN = false ∧ y.isNaN = false := by
  constructor
  · exact Bool.eq_false_iff.mpr fun hx => not_lt_of_isNaN (.inl hx) h
  · exact Bool.eq_false_iff.mpr fun hy => not_lt_of_isNaN (.inr hy) h

theorem not_le_of_isNaN (h : x.isNaN = true ∨ y.isNaN = true) : ¬ x ≤ y := by
  have hnone : x.toModel.unpack.compare y.toModel.unpack = none :=
    h.elim compare_of_isNaN_left compare_of_isNaN_right
  rw [le_eq, UnpackedFloat.le, hnone]
  decide

/-! ## The smaller and the larger -/

theorem smaller_of_isNaN_left (hx : x.isNaN = true) : smaller x y = y := by
  rw [smaller, if_neg (not_lt_of_isNaN (.inl hx)), if_neg (not_lt_of_isNaN (.inr hx)), if_pos hx]

theorem smaller_of_isNaN_right (hx : x.isNaN = false) (hy : y.isNaN = true) :
    smaller x y = x := by
  rw [smaller, if_neg (not_lt_of_isNaN (.inr hy)), if_neg (not_lt_of_isNaN (.inl hy)), hx]
  rfl

theorem larger_of_isNaN_left (hx : x.isNaN = true) : larger x y = y := by
  rw [larger, if_neg (not_lt_of_isNaN (.inr hx)), if_neg (not_lt_of_isNaN (.inl hx)), if_pos hx]

theorem larger_of_isNaN_right (hx : x.isNaN = false) (hy : y.isNaN = true) :
    larger x y = x := by
  rw [larger, if_neg (not_lt_of_isNaN (.inl hy)), if_neg (not_lt_of_isNaN (.inr hy)), hx]
  rfl

theorem smaller_eq_or (hx : x.isNaN = false) (hy : y.isNaN = false) :
    smaller x y = x ∧ exact x ≤ exact y ∨ smaller x y = y ∧ exact y ≤ exact x := by
  unfold smaller
  simp only [lt_iff_exact hx hy, lt_iff_exact hy hx, hx]
  split
  next h => exact .inl ⟨rfl, h.le⟩
  next h =>
    split
    next h' => exact .inr ⟨rfl, h'.le⟩
    next h' => exact .inl ⟨rfl, not_lt.mp h'⟩

theorem larger_eq_or (hx : x.isNaN = false) (hy : y.isNaN = false) :
    larger x y = x ∧ exact y ≤ exact x ∨ larger x y = y ∧ exact x ≤ exact y := by
  unfold larger
  simp only [GT.gt, lt_iff_exact hx hy, lt_iff_exact hy hx, hx]
  split
  next h => exact .inl ⟨rfl, h.le⟩
  next h =>
    split
    next h' => exact .inr ⟨rfl, h'.le⟩
    next h' => exact .inl ⟨rfl, not_lt.mp h'⟩

theorem exact_smaller (hx : x.isNaN = false) (hy : y.isNaN = false) :
    exact (smaller x y) = min (exact x) (exact y) := by
  rcases smaller_eq_or hx hy with ⟨h, hle⟩ | ⟨h, hle⟩
  · rw [h, min_eq_left hle]
  · rw [h, min_eq_right hle]

theorem exact_larger (hx : x.isNaN = false) (hy : y.isNaN = false) :
    exact (larger x y) = max (exact x) (exact y) := by
  rcases larger_eq_or hx hy with ⟨h, hle⟩ | ⟨h, hle⟩
  · rw [h, max_eq_left hle]
  · rw [h, max_eq_right hle]

/-- The smaller of two doubles is at most the larger, unless both are NaN. -/
theorem smaller_le_larger_iff :
    smaller x y ≤ larger y x ↔ ¬ (x.isNaN = true ∧ y.isNaN = true) := by
  have hself : ∀ z : Float, z.isNaN = false → z ≤ z := fun z hz =>
    (le_iff_exact hz hz).mpr le_rfl
  cases hx : x.isNaN with
  | true =>
      rw [smaller_of_isNaN_left hx]
      cases hy : y.isNaN with
      | true => exact iff_of_false (not_le_of_isNaN (.inl hy)) (by simp)
      | false =>
          rw [larger_of_isNaN_right hy hx]
          exact iff_of_true (hself y hy) (by simp)
  | false =>
      cases hy : y.isNaN with
      | true =>
          rw [smaller_of_isNaN_right hx hy, larger_of_isNaN_left hy]
          exact iff_of_true (hself x hx) (by simp)
      | false =>
          have hs : (smaller x y).isNaN = false := by
            rcases smaller_eq_or hx hy with ⟨h, -⟩ | ⟨h, -⟩ <;> rw [h] <;> assumption
          have hl : (larger y x).isNaN = false := by
            rcases larger_eq_or hy hx with ⟨h, -⟩ | ⟨h, -⟩ <;> rw [h] <;> assumption
          refine iff_of_true ?_ (by simp)
          rw [le_iff_exact hs hl, exact_smaller hx hy, exact_larger hy hx]
          exact (min_le_left _ _).trans (le_max_right _ _)

end Order

/-! ## Whole numbers -/

theorem natAbs_signed (p : Parts) : p.signed.natAbs = p.mantissa := by
  unfold Parts.signed
  split <;> simp

theorem exists_int_eq_iff (a e : ℤ) :
    (∃ n : ℤ, (a * 2 ^ e : ℚ) = n) ↔ 0 ≤ e ∨ a.natAbs % 2 ^ (-e).toNat = 0 := by
  by_cases he : 0 ≤ e
  · obtain ⟨k, rfl⟩ := Int.eq_ofNat_of_zero_le he
    exact iff_of_true ⟨a * 2 ^ k, by push_cast; rw [zpow_natCast]⟩ (.inl he)
  · have hk : e = -((-e).toNat : ℤ) := by omega
    generalize (-e).toNat = k at hk
    subst hk
    have hscale : ∀ n : ℤ, (a * 2 ^ (-(k : ℤ)) : ℚ) = n ↔ a = n * 2 ^ k := by
      intro n
      rw [zpow_neg, zpow_natCast, ← div_eq_mul_inv, div_eq_iff (by positivity)]
      exact_mod_cast Iff.rfl
    simp only [hscale, or_iff_right he]
    rw [← Nat.dvd_iff_mod_eq_zero, ← Int.natCast_dvd, Nat.cast_pow]
    constructor <;> rintro ⟨n, hn⟩ <;> exact ⟨n, by rw [hn, mul_comm]; rfl⟩

/-- The doubles that count as whole are those that stand for an integer. -/
theorem isWhole_iff {x : Float} (hx : x.isNaN = false) :
    isWhole x = true ↔ ∃ n : ℤ, exact x = ((n : ℚ) : WithTop ℚ) := by
  cases hp : parts? x with
  | none =>
      have hplace : exact x = ⊤ ∨ exact x = ⊥ := by
        rw [parts?_eq] at hp
        rw [isNaN_eq] at hx
        rw [exact_eq_place]
        cases hu : x.toModel.unpack with
        | infinity s => cases s <;> simp [place]
        | _ => rw [hu] at hp hx; cases hx <;> cases hp
      have hnot : ¬ ∃ n : ℤ, exact x = ((n : ℚ) : WithTop ℚ) := by
        rintro ⟨n, hn⟩
        rcases hplace with h | h <;> rw [h] at hn <;> cases hn
      simp [isWhole, hp, hnot]
  | some p =>
      have hexact : exact x = ((p.signed * 2 ^ p.exponent : ℚ) : WithTop ℚ) := by
        rw [exact, hp]
      simp only [isWhole, hp, hexact, Bool.or_eq_true, decide_eq_true_iff, beq_iff_eq,
        WithBot.coe_inj, WithTop.coe_inj, exists_int_eq_iff, natAbs_signed]
      rfl

end MockApi.Double
