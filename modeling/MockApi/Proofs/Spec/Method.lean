import Mathlib.Data.List.Basic
import MockApi.Spec.Method
import MockApi.Text.Case

/-! # The words for methods

Methods have different words, and no word has a dash or a slash in it. A text that starts with the
word and a dash therefore tells the method.
-/

namespace MockApi.Method

theorem toLower_lower (m : Method) : Text.toLower m.lower = m.lower := by
  cases m <;> decide

theorem lower_injective {m m' : Method} (h : m.lower = m'.lower) : m = m' := by
  cases m <;> cases m' <;> simp_all [lower]

theorem dash_notMem_lower (m : Method) : '-' ∉ m.lower.toList := by
  cases m <;> decide

theorem slash_notMem_lower (m : Method) : '/' ∉ m.lower.toList := by
  cases m <;> decide

/-- The word of a method ends at the first dash. -/
theorem lower_dash_inj {m m' : Method} {rest rest' : List Char} :
    m.lower.toList ++ '-' :: rest = m'.lower.toList ++ '-' :: rest' ↔ m = m' ∧ rest = rest' := by
  constructor
  · intro h
    have hpieces := congrArg (List.splitOn '-') h
    rw [List.splitOn_append_cons_self_of_not_mem m.dash_notMem_lower,
      List.splitOn_append_cons_self_of_not_mem m'.dash_notMem_lower] at hpieces
    have hmethod := (List.cons.inj hpieces).1
    rw [hmethod] at h
    exact ⟨lower_injective (String.toList_inj.mp hmethod),
      (List.cons.inj (List.append_cancel_left h)).2⟩
  · rintro ⟨rfl, rfl⟩
    rfl

end MockApi.Method
