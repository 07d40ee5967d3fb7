import MockApi.Number.Layout
import MockApi.Number.Read
import MockApi.Proofs.Number.Integer
import MockApi.Proofs.Number.Shortest
import MockApi.Proofs.Text.Run

/-! # Written numbers read back

Digits with an optional point spell a number, and reading them gives the double nearest to it. The
digits that are written for a double without an exponent spell a number of its rounding interval, so
they are read as that double.
-/

namespace MockApi

open Double
open Float.Model
open UnpackedFloat (Sign)

namespace Decimal.Text

/-! ## Unsigned numbers -/

/-- The digits, with or without a point, that spell a number. -/
inductive Spells : List Char → ℚ → Prop
  | whole {w} (some : w ≠ []) (digits : ∀ c ∈ w, c.isDigit = true) :
      Spells w (Nat.ofDigitChars 10 w 0)
  | point {w f} (some : w ≠ []) (digits : ∀ c ∈ w, c.isDigit = true)
      (places : ∀ c ∈ f, c.isDigit = true) :
      Spells (w ++ '.' :: f) (Nat.ofDigitChars 10 (w ++ f) 0 / 10 ^ f.length)

theorem unsigned?_digits {w : List Char} (hw : w ≠ []) (hdigits : ∀ c ∈ w, c.isDigit = true) :
    unsigned? w = some ⟨w, [], 0⟩ := by
  have htake := List.takeWhile_eq_self_iff.mpr hdigits
  have hdrop := List.dropWhile_eq_nil_iff.mpr hdigits
  simp [unsigned?, htake, hdrop, hw]

theorem unsigned?_point {w f : List Char} (hw : w ≠ []) (hdigits : ∀ c ∈ w, c.isDigit = true)
    (hplaces : ∀ c ∈ f, c.isDigit = true) : unsigned? (w ++ '.' :: f) = some ⟨w, f, 0⟩ := by
  have hpoint : ∀ c ∈ ('.' :: f).head?, c.isDigit = false := by simp
  have htake := Text.takeWhile_run hdigits hpoint
  have hdrop := Text.dropWhile_run hdigits hpoint
  have htake' := List.takeWhile_eq_self_iff.mpr hplaces
  have hdrop' := List.dropWhile_eq_nil_iff.mpr hplaces
  simp [unsigned?, htake, hdrop, htake', hdrop', hw]

theorem foldl_digits (cs : List Char) :
    cs.foldl (fun n c => n * 10 + (c.toNat - 48)) 0 = Nat.ofDigitChars 10 cs 0 := by
  simp only [Nat.ofDigitChars_eq_foldl, mul_comm]
  rfl

/-- Digits without an exponent are read as the nearest double. -/
theorem Unsigned.rounds_toFloat {w : List Char} (hw : w ≠ []) (f : List Char) :
    Rounds (Nat.ofDigitChars 10 (w ++ f) 0 / 10 ^ f.length)
      (Unsigned.toFloat ⟨w, f, 0⟩).toModel.unpack := by
  have hlength : 0 < w.length := List.length_pos_iff.mpr hw
  unfold Unsigned.toFloat
  simp only [foldl_digits]
  generalize Nat.ofDigitChars 10 (w ++ f) 0 = n
  split
  next h =>
    rw [h, Nat.cast_zero, zero_div]
    exact rounds_zero .positive
  next =>
    rw [if_neg (by rw [List.length_append]; push_cast; omega), if_neg (by omega)]
    split
    next h =>
      have hnil : f.length = 0 := by omega
      have hexp : (0 - (f.length : ℤ)).toNat = 0 := by omega
      rw [hnil, pow_zero, div_one, Nat.cast_zero]
      exact rounds_ofNat n
    next h =>
      have hexp : (-(0 - (f.length : ℤ))).toNat = f.length := by omega
      rw [hexp]
      exact rounds_ofScientific n (by omega)

theorem Spells.exists_unsigned? {cs : List Char} {q : ℚ} (h : Spells cs q) :
    ∃ u, unsigned? cs = some u ∧ Rounds q u.toFloat.toModel.unpack := by
  cases h with
  | whole hw hdigits =>
      have h := Unsigned.rounds_toFloat hw []
      rw [List.append_nil, List.length_nil, pow_zero, div_one] at h
      exact ⟨_, unsigned?_digits hw hdigits, h⟩
  | point hw hdigits hplaces =>
      exact ⟨_, unsigned?_point hw hdigits hplaces, Unsigned.rounds_toFloat hw _⟩

theorem Spells.exists_cons {cs : List Char} {q : ℚ} (h : Spells cs q) :
    ∃ c rest, cs = c :: rest ∧ c.isDigit = true := by
  cases h with
  | whole hw hdigits =>
      obtain ⟨c, rest, rfl⟩ := List.exists_cons_of_ne_nil hw
      exact ⟨c, rest, rfl, hdigits c List.mem_cons_self⟩
  | point hw hdigits =>
      obtain ⟨c, rest, rfl⟩ := List.exists_cons_of_ne_nil hw
      exact ⟨c, rest ++ '.' :: _, rfl, hdigits c List.mem_cons_self⟩

/-! ## Signs -/

theorem ne_of_isDigit {c d : Char} (hc : c.isDigit = true) (hd : d.isDigit = false) : c ≠ d := by
  rintro rfl
  rw [hc] at hd
  cases hd

theorem toLower_of_isDigit {c : Char} (hc : c.isDigit = true) : c.toLower = c := by
  unfold Char.toLower
  rw [dif_neg]
  rintro ⟨h, -⟩
  have hlow : 65 ≤ c.toNat := UInt32.le_iff_toNat_le.mp h
  have hhigh := (Text.toNat_of_isDigit hc).2
  omega

/-- A text that starts with a digit is none of the words. -/
theorem ofList_map_toLower_ne {c d : Char} {rest : List Char} {word : String}
    (hc : c.isDigit = true) (hword : word.toList.head? = some d) (hd : d.isDigit = false) :
    String.ofList ((c :: rest).map Char.toLower) ≠ word := by
  rintro rfl
  rw [String.toList_ofList, List.map_cons, List.head?_cons, toLower_of_isDigit hc] at hword
  exact ne_of_isDigit hc hd (Option.some.inj hword)

/-- An optional minus sign is read apart from the digits. -/
theorem toFloat?_of_unsigned {cs : List Char} {u : Unsigned} (negative : Bool)
    (hcons : ∃ c rest, cs = c :: rest ∧ c.isDigit = true) (hu : unsigned? cs = some u) :
    toFloat? ((if negative then ['-'] else []) ++ cs) =
      some (if negative then negate u.toFloat else u.toFloat) := by
  obtain ⟨c, rest, rfl, hc⟩ := hcons
  have hinf : String.ofList ((c :: rest).map Char.toLower) ≠ "inf" :=
    ofList_map_toLower_ne hc rfl rfl
  have hinfinity : String.ofList ((c :: rest).map Char.toLower) ≠ "infinity" :=
    ofList_map_toLower_ne hc rfl rfl
  have hnan : String.ofList ((c :: rest).map Char.toLower) ≠ "nan" :=
    ofList_map_toLower_ne hc rfl rfl
  have hmagnitude :
      (if String.ofList ((c :: rest).map Char.toLower) = "inf" ∨
          String.ofList ((c :: rest).map Char.toLower) = "infinity" then some infinity
        else if String.ofList ((c :: rest).map Char.toLower) = "nan" then some notANumber
        else (unsigned? (c :: rest)).map Unsigned.toFloat) = some u.toFloat := by
    rw [if_neg (not_or.mpr ⟨hinf, hinfinity⟩), if_neg hnan, hu]
    rfl
  cases negative with
  | true => exact congrArg (Option.map negate) hmagnitude
  | false =>
      have hminus : c ≠ '-' := ne_of_isDigit hc (by decide)
      have hplus : c ≠ '+' := ne_of_isDigit hc (by decide)
      change toFloat? (c :: rest) = some u.toFloat
      unfold toFloat?
      split
      next negative body h =>
        split at h
        next h' => exact absurd (List.cons.inj h').1 hminus
        next h' => exact absurd (List.cons.inj h').1 hplus
        next =>
          cases h
          exact congrArg (Option.map id) hmagnitude

theorem exists_unpack_of_parts {x : Float} {p : Parts} (hp : parts? x = some p)
    (hm : 0 < p.mantissa) :
    ∃ s, x.toModel.unpack = .finite s p.mantissa p.exponent hm ∧ p.negative = (s == .negative) := by
  rw [parts?_eq] at hp
  cases hu : x.toModel.unpack with
  | finite s =>
      rw [hu] at hp
      obtain rfl := Option.some.inj hp
      exact ⟨s, rfl, rfl⟩
  | zero s =>
      rw [hu] at hp
      obtain rfl := Option.some.inj hp
      exact absurd hm (lt_irrefl 0)
  | _ => rw [hu] at hp; cases hp

/-- Digits that spell a number of the interval of a double are read as the double. -/
theorem toFloat?_of_spells {x : Float} {p : Parts} {cs : List Char} {q : ℚ}
    (hp : parts? x = some p) (hm : 0 < p.mantissa) (hcs : Spells cs q)
    (hq : p.interval.Holds q) :
    toFloat? ((if p.negative then ['-'] else []) ++ cs) = some x := by
  obtain ⟨u, hu, hrounds⟩ := hcs.exists_unsigned?
  rw [toFloat?_of_unsigned p.negative hcs.exists_cons hu]
  obtain ⟨s, hunpack, hnegative⟩ := exists_unpack_of_parts hp hm
  have hcanonical : Canonical (.finite .positive p.mantissa p.exponent hm) := by
    have h := canonical_unpack x
    rw [hunpack] at h
    cases h with
    | finite _ _ size low high normal => exact .finite _ hm size low high normal
  have hmagnitude := hrounds.eq_finite hm hcanonical hq
  refine congrArg some (unpack_injective ?_)
  rw [hunpack, hnegative]
  cases s with
  | positive => exact hmagnitude
  | negative =>
      change (negate u.toFloat).toModel.unpack = _
      rw [unpack_negate, hmagnitude]
      rfl

/-! ## Digits in places -/

theorem isDigit_of_mem_zeros {k : ℕ} {c : Char} (h : c ∈ List.replicate k '0') :
    c.isDigit = true := by
  rw [List.eq_of_mem_replicate h]
  rfl

theorem spells_toDigits (n : ℕ) : Spells (Nat.toDigits 10 n) n := by
  have h := Spells.whole (w := Nat.toDigits 10 n) Nat.toDigits_ne_nil
    fun c hc => Text.isDigit_of_mem_toDigits hc
  rwa [Nat.ofDigitChars_ten_toDigits] at h

theorem spells_point {w f : List Char} {n : ℕ} {e : ℤ} (hw : w ≠ [])
    (hdigits : ∀ c ∈ w, c.isDigit = true) (hplaces : ∀ c ∈ f, c.isDigit = true)
    (hn : Nat.ofDigitChars 10 (w ++ f) 0 = n) (he : (f.length : ℤ) = -e) :
    Spells (w ++ '.' :: f) (n * 10 ^ e) := by
  have h := Spells.point hw hdigits hplaces
  have hpower : (10 ^ e : ℚ) = (10 ^ f.length)⁻¹ := by
    rw [← zpow_natCast, he, ← zpow_neg, neg_neg]
  rwa [hn, div_eq_mul_inv, ← hpower] at h

/-- Without an exponent the digits are padded with zeros up to the point. -/
theorem spells_positional (n : ℕ) (e : ℤ) :
    Spells (Layout.plain.positional (Nat.toDigits 10 n) e) (n * 10 ^ e) := by
  unfold Layout.positional
  split
  next he =>
    have hvalue : Nat.ofDigitChars 10 (Nat.toDigits 10 n ++ List.replicate e.toNat '0') 0 =
        10 ^ e.toNat * n := by
      rw [Nat.ofDigitChars_append, Nat.ofDigitChars_ten_toDigits, Nat.ofDigitChars_replicate_zero]
    have hpower : (10 ^ e : ℚ) = 10 ^ e.toNat := by
      rw [← zpow_natCast, Int.toNat_of_nonneg he]
    have hdigits : ∀ c ∈ Nat.toDigits 10 n ++ List.replicate e.toNat '0', c.isDigit = true := by
      intro c hc
      exact (List.mem_append.mp hc).elim Text.isDigit_of_mem_toDigits isDigit_of_mem_zeros
    have h := Spells.whole (by simp [Nat.toDigits_ne_nil]) hdigits
    rw [hvalue] at h
    rw [hpower, mul_comm, show Layout.plain.keepsPoint = false from rfl, if_neg (by decide),
      List.append_nil]
    exact_mod_cast h
  next he =>
    have hplaces : ((-e).toNat : ℤ) = -e := by omega
    dsimp only
    split
    next hlt =>
      refine spells_point ?_ ?_ ?_ ?_ ?_
      · refine List.ne_nil_of_length_pos ?_
        rw [List.length_take]
        omega
      · exact fun c hc => Text.isDigit_of_mem_toDigits (List.mem_of_mem_take hc)
      · exact fun c hc => Text.isDigit_of_mem_toDigits (List.mem_of_mem_drop hc)
      · rw [List.take_append_drop, Nat.ofDigitChars_ten_toDigits]
      · rw [List.length_drop]
        omega
    next hle =>
      change Spells (['0'] ++ '.' ::
        (List.replicate ((-e).toNat - (Nat.toDigits 10 n).length) '0' ++ Nat.toDigits 10 n)) _
      refine spells_point (List.cons_ne_nil _ _) (by simp) ?_ ?_ ?_
      · intro c hc
        exact (List.mem_append.mp hc).elim isDigit_of_mem_zeros Text.isDigit_of_mem_toDigits
      · rw [Nat.ofDigitChars_append, Nat.ofDigitChars_append,
          show Nat.ofDigitChars 10 ['0'] 0 = 0 from rfl, Nat.ofDigitChars_replicate_zero, mul_zero,
          Nat.ofDigitChars_ten_toDigits]
      · rw [List.length_append, List.length_replicate]
        omega

end Decimal.Text

end MockApi
