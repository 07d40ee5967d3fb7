import Mathlib.Data.List.Basic
import MockApi.Text.Case

/-! # Upper case of Latin texts

On characters of seven bits the upper case of all scripts is that of the Latin letters. A letter
whose upper case has seven bits has seven bits itself.
-/

namespace MockApi.Text

theorem toNat_lt_of_toUpper {c : Char} (h : c.toUpper.toNat < 128) : c.toNat < 128 := by
  unfold Char.toUpper at h
  split at h
  next hlower =>
    have hle : c.val.toNat ≤ 122 := UInt32.le_iff_toNat_le.mp hlower.2
    change c.val.toNat < 128
    omega
  next => exact h

/-- No seven bit character has an upper case of several characters. -/
theorem lookup_upperExpansions_eq_none {c : Char} (h : c.toNat < 128) :
    upperExpansions.lookup c.toNat = none := by
  have hall : ∀ e ∈ upperExpansions, 128 ≤ e.1 := by decide
  refine List.lookup_eq_none_iff.mpr fun e he => ?_
  have hle := hall e he
  simp only [bne_iff_ne, ne_eq]
  omega

theorem toList_toUpper {s : String} (h : ∀ c ∈ s.toList, c.toNat < 128) :
    (toUpper s).toList = s.toList.map Char.toUpper := by
  rw [toUpper, String.toList_ofList, List.map_eq_flatMap]
  refine List.flatMap_congr fun c hc => ?_
  have hnone := lookup_upperExpansions_eq_none (h c hc)
  simp [hnone, upperChar, h c hc]

end MockApi.Text
