import Mathlib.Data.List.Basic
import MockApi.Text.Search

/-! # Replacing words

A replacement passes over a text once. It changes the occurrences that begin where the one before
has ended, and keeps the characters at which the word does not begin. The word of a single character
is replaced wherever that character stands.
-/

namespace MockApi.Text

section

variable {word new rest : List Char}

theorem replaceFrom_eq_replace_drop (word new : List Char) (skip : ℕ) (cs : List Char) :
    replaceFrom word new skip cs = replace word new (cs.drop skip) := by
  induction cs generalizing skip with
  | nil => cases skip <;> rfl
  | cons c rest ih =>
      cases skip with
      | zero => rfl
      | succ skip => rw [replaceFrom, ih, List.drop_succ_cons]

/-- An occurrence at the front is replaced. -/
theorem replace_word_append (hword : word ≠ []) :
    replace word new (word ++ rest) = new ++ replace word new rest := by
  obtain ⟨c, later, rfl⟩ := List.exists_cons_of_ne_nil hword
  have hprefix : (c :: later).isPrefixOf (c :: later ++ rest) = true :=
    List.isPrefixOf_iff_prefix.mpr (List.prefix_append _ _)
  rw [replace, List.cons_append, replaceFrom, ← List.cons_append, hprefix, Bool.and_true,
    List.isEmpty_cons, Bool.not_false, if_pos rfl, replaceFrom_eq_replace_drop, List.length_cons,
    Nat.add_sub_cancel, List.drop_left]

/-- A character at which the word does not begin stays. -/
theorem replace_cons {c : Char} (h : ¬ word <+: c :: rest) :
    replace word new (c :: rest) = c :: replace word new rest := by
  have hprefix : word.isPrefixOf (c :: rest) = false := by
    rwa [Bool.eq_false_iff, ne_eq, List.isPrefixOf_iff_prefix]
  rw [replace, replaceFrom, hprefix, Bool.and_false]
  rfl

/-- Replacing a single character changes it wherever it stands. -/
theorem replace_singleton (a : Char) (new cs : List Char) :
    replace [a] new cs = cs.flatMap fun c => if c = a then new else [c] := by
  induction cs with
  | nil => rfl
  | cons c rest ih =>
      rw [List.flatMap_cons, ← ih]
      by_cases hc : c = a
      · subst hc
        rw [if_pos rfl]
        exact replace_word_append (List.cons_ne_nil c [])
      · have hword : ¬ [a] <+: c :: rest := by
          rw [List.cons_prefix_cons]
          exact fun h => hc h.1.symm
        rw [if_neg hc, replace_cons hword, List.singleton_append]

end

end MockApi.Text
