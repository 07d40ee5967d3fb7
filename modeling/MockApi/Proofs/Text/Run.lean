import Mathlib.Data.List.Basic
import MockApi.Number.Read
import MockApi.Text.Blank
import MockApi.Text.Digit
import MockApi.Text.Search

/-! # Runs of characters

A run of characters of a class ends at the first character outside. Blanks around a text are such
runs, and so are the digits of a number, which are read as the number they were written for.
-/

namespace MockApi

namespace Text

section

variable {inside : Char → Bool} {taken rest : List Char}

theorem takeWhile_run (htaken : ∀ c ∈ taken, inside c = true)
    (hrest : ∀ c ∈ rest.head?, inside c = false) : (taken ++ rest).takeWhile inside = taken := by
  rw [List.takeWhile_append_of_pos htaken]
  cases rest with
  | nil => simp
  | cons c rest => simp [hrest c rfl]

theorem dropWhile_of_head (hrest : ∀ c ∈ rest.head?, inside c = false) :
    rest.dropWhile inside = rest := by
  cases rest with
  | nil => rfl
  | cons c rest => simp [hrest c rfl]

theorem dropWhile_run (htaken : ∀ c ∈ taken, inside c = true)
    (hrest : ∀ c ∈ rest.head?, inside c = false) : (taken ++ rest).dropWhile inside = rest := by
  rw [List.dropWhile_append_of_pos htaken, dropWhile_of_head hrest]

end

/-- A literal is its characters by definition, and comparing it with them does not decode it. -/
theorem toList_of_eq_ofList {s : String} {cs : List Char} (h : s = String.ofList cs) :
    s.toList = cs := by
  rw [h, String.toList_ofList]

theorem after?_append (lead rest : List Char) : after? lead (lead ++ rest) = some rest := by
  rw [after?, if_pos (List.isPrefixOf_iff_prefix.mpr (List.prefix_append lead rest)),
    List.drop_left]

theorem after?_eq_some_iff {lead cs rest : List Char} :
    after? lead cs = some rest ↔ cs = lead ++ rest := by
  constructor
  · intro h
    rw [after?, Option.ite_none_right_eq_some, List.isPrefixOf_iff_prefix] at h
    obtain ⟨⟨later, rfl⟩, hdrop⟩ := h
    rw [← Option.some.inj hdrop, List.drop_left]
  · rintro rfl
    exact after?_append lead rest

/-- Trimming takes the blanks from both ends of a text and leaves what they surround. -/
theorem trim_blanks {before inner after : String} (hbefore : before.toList.all isBlank = true)
    (hafter : after.toList.all isBlank = true) (hinner : inner.toList ≠ [])
    (hhead : ∀ c ∈ inner.toList.head?, isBlank c = false)
    (hlast : ∀ c ∈ inner.toList.getLast?, isBlank c = false) :
    trim (before ++ inner ++ after) = inner := by
  have hfront : ∀ c ∈ (inner.toList ++ after.toList).head?, isBlank c = false := by
    rwa [List.head?_append_of_ne_nil _ hinner]
  have hback : ∀ c ∈ inner.toList.reverse.head?, isBlank c = false := by
    rwa [List.head?_reverse]
  rw [List.all_eq_true] at hbefore hafter
  rw [trim, trimWhere, String.toList_append, String.toList_append, List.append_assoc,
    dropWhile_run hbefore hfront, List.reverse_append, dropWhile_run (by simpa using hafter) hback,
    List.reverse_reverse, String.ofList_toList]

/-! ## Digits -/

theorem toNat_of_isDigit {c : Char} (h : c.isDigit = true) : 48 ≤ c.toNat ∧ c.toNat ≤ 57 := by
  simp only [Char.isDigit, Bool.and_eq_true, decide_eq_true_iff, ge_iff_le,
    UInt32.le_iff_toNat_le] at h
  exact h

theorem isAnyDigit_of_isDigit {c : Char} (h : c.isDigit = true) : isAnyDigit c = true := by
  have hsmall : c.toNat < 128 := Nat.lt_of_le_of_lt (toNat_of_isDigit h).2 (by decide)
  rwa [isAnyDigit, if_pos hsmall]

theorem isBlank_of_isDigit {c : Char} (h : c.isDigit = true) : isBlank c = false := by
  obtain ⟨hlow, hhigh⟩ := toNat_of_isDigit h
  simp only [isBlank, Bool.or_eq_false_iff, Bool.and_eq_false_iff, decide_eq_false_iff_not,
    beq_eq_false_iff_ne]
  omega

theorem isDigit_of_mem_toDigits {n : ℕ} {c : Char} (h : c ∈ Nat.toDigits 10 n) :
    c.isDigit = true :=
  Nat.isDigit_of_mem_toDigits (by decide) (Nat.le_refl 10) h

end Text

theorem digitValue?_of_isDigit {c : Char} (h : c.isDigit = true) :
    digitValue? c = some (c.toNat - 48) := by
  obtain ⟨hlow, hhigh⟩ := Text.toNat_of_isDigit h
  have hlow' : '0' ≤ c := UInt32.le_iff_toNat_le.mpr hlow
  have hhigh' : c ≤ '9' := UInt32.le_iff_toNat_le.mpr hhigh
  rw [digitValue?, if_pos ⟨hlow', hhigh'⟩]

theorem readNat?_digits {cs : List Char} (hcs : cs ≠ []) (hdigits : ∀ c ∈ cs, c.isDigit = true) :
    readNat? cs = some (Nat.ofDigitChars 10 cs 0) := by
  -- digits that were read before count ten times as much
  have hfold : ∀ n : ℕ, cs.foldl (fun acc c =>
      acc.bind fun n => (digitValue? c).bind fun d =>
        if d < 10 then some (n * 10 + d) else none) (some n) = some (Nat.ofDigitChars 10 cs n) := by
    clear hcs
    induction cs with
    | nil => exact fun n => rfl
    | cons c rest ih =>
        intro n
        have hc := hdigits c List.mem_cons_self
        have hsmall : c.toNat - 48 < 10 := by
          have := Text.toNat_of_isDigit hc
          omega
        rw [List.foldl_cons, Option.bind_some, digitValue?_of_isDigit hc, Option.bind_some,
          if_pos hsmall, ih (fun d hd => hdigits d (List.mem_cons_of_mem _ hd)),
          Nat.ofDigitChars_cons, Nat.mul_comm n 10]
        rfl
  rw [readNat?, readRadix?, List.isEmpty_eq_false_iff.mpr hcs]
  exact hfold 0

/-- The digits of a number are read as the number. -/
theorem readNat?_toDigits (n : ℕ) : readNat? (Nat.toDigits 10 n) = some n := by
  rw [readNat?_digits Nat.toDigits_ne_nil fun c hc => Text.isDigit_of_mem_toDigits hc,
    Nat.ofDigitChars_ten_toDigits]

end MockApi
