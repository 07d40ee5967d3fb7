import Mathlib.Algebra.Group.Nat.Even
import Mathlib.Data.List.DropRight
import MockApi.Proofs.Mock.PatternCall
import MockApi.Sample.Value

/-! # Anchors of a pattern

A dollar sign at the end of a pattern is an anchor when it is not escaped: the backslashes before it
pair up with each other. Stripping looks at a single character before it. So it finds the anchors
that no backslash stands before, leaves every escaped dollar sign where it is, and misses the
anchors behind backslashes that are escaped themselves.
-/

namespace MockApi.Sample

open Capability

/-- How many backslashes a text ends with. -/
def backslashesAtEnd (cs : List Char) : ℕ := (cs.rtakeWhile (· = '\\')).length

/-- A text without the caret at its start. -/
def withoutCaret : List Char → List Char
  | '^' :: rest => rest
  | cs => cs

/-- A text without the dollar sign at its end that is not escaped. -/
def withoutDollar (cs : List Char) : List Char :=
  if cs.getLast? = some '$' ∧ Even (backslashesAtEnd cs.dropLast) then cs.dropLast else cs

/-- A pattern without the anchors at its ends. -/
def unanchored (cs : List Char) : List Char := withoutDollar (withoutCaret cs)

/-! ## Backslashes at the end -/

theorem backslashesAtEnd_concat (cs : List Char) (c : Char) :
    backslashesAtEnd (cs ++ [c]) = if c = '\\' then backslashesAtEnd cs + 1 else 0 := by
  rw [backslashesAtEnd, List.rtakeWhile_concat]
  by_cases hc : c = '\\'
  · simp [hc, backslashesAtEnd]
  · simp [hc]

theorem backslashesAtEnd_cons {c : Char} (h : c ≠ '\\') (cs : List Char) :
    backslashesAtEnd (c :: cs) = backslashesAtEnd cs := by
  induction cs using List.reverseRecOn with
  | nil => exact (backslashesAtEnd_concat [] c).trans (if_neg h)
  | append_singleton cs d ih =>
      rw [← List.cons_append, backslashesAtEnd_concat, backslashesAtEnd_concat, ih]

theorem backslashesAtEnd_eq_zero_iff (cs : List Char) :
    backslashesAtEnd cs = 0 ↔ cs.getLast? ≠ some '\\' := by
  induction cs using List.reverseRecOn with
  | nil => simp [backslashesAtEnd]
  | append_singleton cs c _ =>
      rw [backslashesAtEnd_concat, List.getLast?_concat]
      by_cases hc : c = '\\' <;> simp [hc]

/-- An escape pair at the front does not change whether the backslashes at the end pair up. -/
theorem even_backslashesAtEnd_pair (c : Char) (cs : List Char) :
    Even (backslashesAtEnd ('\\' :: c :: cs)) ↔ Even (backslashesAtEnd cs) := by
  induction cs using List.reverseRecOn with
  | nil =>
      have hpair : backslashesAtEnd ['\\', c] = if c = '\\' then 2 else 0 := by
        rw [← List.singleton_append, backslashesAtEnd_concat]
        rfl
      have hnone : Even (backslashesAtEnd []) := ⟨0, rfl⟩
      rw [hpair]
      split
      next => exact iff_of_true ⟨1, rfl⟩ hnone
      next => exact iff_of_true ⟨0, rfl⟩ hnone
  | append_singleton cs d ih =>
      rw [← List.cons_append, ← List.cons_append, backslashesAtEnd_concat, backslashesAtEnd_concat]
      by_cases hd : d = '\\'
      · rw [if_pos hd, if_pos hd, Nat.even_add_one, Nat.even_add_one, ih]
      · rw [if_neg hd, if_neg hd]

/-- Read from left to right, a dollar sign at the end is a piece by itself just when the backslashes
before it pair up. -/
theorem getLast?_pieces_dollar (body : List Char) :
    (pieces (body ++ ['$'])).getLast? = some ['$'] ↔ Even (backslashesAtEnd body) := by
  have hlater (piece : List Char) (rest : List Char) :
      (piece :: pieces (rest ++ ['$'])).getLast? = (pieces (rest ++ ['$'])).getLast? := by
    refine List.getLast?_cons_of_ne_nil fun hnil => ?_
    have hflat := flatten_pieces (rest ++ ['$'])
    rw [hnil] at hflat
    exact List.append_ne_nil_of_right_ne_nil rest (List.cons_ne_nil _ _) hflat.symm
  induction body using pieces_induction with
  | nil => simp [pieces, backslashesAtEnd]
  | lone =>
      have hodd : backslashesAtEnd ['\\'] = 1 := rfl
      simp [pieces, hodd]
  | pair c rest ih =>
      rw [List.cons_append, List.cons_append, pieces, hlater, even_backslashesAtEnd_pair]
      exact ih
  | single c rest hc ih =>
      rw [List.cons_append, pieces_cons hc, hlater, backslashesAtEnd_cons hc]
      exact ih

/-! ## Stripping -/

theorem withoutCaret_concat (body : List Char) :
    withoutCaret (body ++ ['$']) = withoutCaret body ++ ['$'] := by
  rcases body with _ | ⟨c, rest⟩
  · rfl
  · by_cases hc : c = '^'
    · subst hc
      rfl
    · have hcaret : ∀ cs, withoutCaret (c :: cs) = c :: cs := by
        intro cs
        refine withoutCaret.eq_2 _ fun _ h => hc ?_
        exact List.head_eq_of_cons_eq h
      rw [List.cons_append, hcaret, hcaret, List.cons_append]

theorem backslashesAtEnd_withoutCaret (body : List Char) :
    backslashesAtEnd (withoutCaret body) = backslashesAtEnd body := by
  unfold withoutCaret
  split
  next rest => exact (backslashesAtEnd_cons (by decide) rest).symm
  next => rfl

theorem stripAnchors_eq (cs : List Char) : stripAnchors cs = dropEndAnchor (withoutCaret cs) := by
  unfold stripAnchors
  split
  next rest => rfl
  next h => rw [withoutCaret.eq_2 cs h]

theorem dropEndAnchor_concat (body : List Char) :
    dropEndAnchor (body ++ ['$']) = if backslashesAtEnd body = 0 then body else body ++ ['$'] := by
  rw [dropEndAnchor, List.getLast?_concat, List.dropLast_concat]
  simp [backslashesAtEnd_eq_zero_iff]

theorem withoutDollar_concat (body : List Char) :
    withoutDollar (body ++ ['$']) =
      if Even (backslashesAtEnd body) then body else body ++ ['$'] := by
  rw [withoutDollar, List.getLast?_concat, List.dropLast_concat]
  simp

theorem getLast?_of_withoutCaret {cs : List Char} (h : (withoutCaret cs).getLast? = some '$') :
    cs.getLast? = some '$' := by
  obtain ⟨body, hbody⟩ := List.getLast?_eq_some_iff.mp h
  unfold withoutCaret at hbody
  split at hbody
  next rest => exact List.getLast?_eq_some_iff.mpr ⟨'^' :: body, by rw [hbody]; rfl⟩
  next => exact List.getLast?_eq_some_iff.mpr ⟨body, hbody⟩

/-- A text that does not end in a dollar sign has no anchor there. -/
theorem keeps_of_getLast? {cs : List Char} (h : cs.getLast? ≠ some '$') :
    dropEndAnchor cs = cs ∧ withoutDollar cs = cs := by
  simp [dropEndAnchor, withoutDollar, h]

/-- The pattern ends in a dollar sign that is an anchor, and backslashes stand before it. -/
def MissesAnchor (cs : List Char) : Prop :=
  ∃ body, cs = body ++ ['$'] ∧ Even (backslashesAtEnd body) ∧ backslashesAtEnd body ≠ 0

/-- A dollar sign that is an anchor is found just when no backslash stands before it. -/
theorem stripAnchors_concat (body : List Char) :
    stripAnchors (body ++ ['$']) =
      if Even (backslashesAtEnd body) ∧ backslashesAtEnd body ≠ 0 then
        unanchored (body ++ ['$']) ++ ['$']
      else unanchored (body ++ ['$']) := by
  rw [stripAnchors_eq, unanchored, withoutCaret_concat, dropEndAnchor_concat, withoutDollar_concat,
    backslashesAtEnd_withoutCaret]
  by_cases hzero : backslashesAtEnd body = 0
  · simp [hzero]
  · by_cases heven : Even (backslashesAtEnd body) <;> simp [hzero, heven]

/-- Stripping takes away the anchors of a pattern, and nothing else, just when it misses none at the
end. A missed anchor stays, and all else is as it should be. A dollar sign at the end is an anchor,
with an even number of backslashes before it, just when no escape pair ends in it. -/
theorem stripAnchors_eq_unanchored_iff (cs : List Char) :
    (stripAnchors cs = unanchored cs ↔ ¬ MissesAnchor cs) ∧
      (MissesAnchor cs → stripAnchors cs = unanchored cs ++ ['$']) ∧
      ∀ body, cs = body ++ ['$'] →
        (Even (backslashesAtEnd body) ↔ (pieces cs).getLast? = some ['$']) := by
  have hmissed (h : MissesAnchor cs) : stripAnchors cs = unanchored cs ++ ['$'] := by
    obtain ⟨body, rfl, hbody⟩ := h
    rw [stripAnchors_concat, if_pos hbody]
  have hfound (h : ¬ MissesAnchor cs) : stripAnchors cs = unanchored cs := by
    by_cases hlast : cs.getLast? = some '$'
    · obtain ⟨body, rfl⟩ := List.getLast?_eq_some_iff.mp hlast
      rw [stripAnchors_concat, if_neg fun hbody => h ⟨body, rfl, hbody⟩]
    · have hinner : (withoutCaret cs).getLast? ≠ some '$' :=
        fun hinner => hlast (getLast?_of_withoutCaret hinner)
      rw [stripAnchors_eq, unanchored, (keeps_of_getLast? hinner).1, (keeps_of_getLast? hinner).2]
  refine ⟨⟨fun heq h => ?_, hfound⟩, hmissed, ?_⟩
  · rw [hmissed h] at heq
    simp at heq
  · rintro body rfl
    exact (getLast?_pieces_dollar body).symm

/-- The anchor behind a backslash that is escaped is missed. -/
theorem stripAnchors_eq_unanchored_backslash :
    let pattern := ['^', '\\', '\\', '$']
    MissesAnchor pattern ∧ unanchored pattern = ['\\', '\\'] ∧
      stripAnchors pattern = ['\\', '\\'] ++ ['$'] ∧ (pieces pattern).getLast? = some ['$'] := by
  intro pattern
  obtain ⟨-, hstays, hpieces⟩ := stripAnchors_eq_unanchored_iff pattern
  have heven : Even (backslashesAtEnd ['^', '\\', '\\']) := ⟨1, rfl⟩
  have hmissed : MissesAnchor pattern := ⟨['^', '\\', '\\'], rfl, heven, nofun⟩
  have hunanchored : unanchored pattern = ['\\', '\\'] := by decide
  exact ⟨hmissed, hunanchored, hunanchored ▸ hstays hmissed,
    (hpieces ['^', '\\', '\\'] rfl).mp heven⟩

/-- Where the anchor is missed no text is drawn, though what it closes is a pattern to draw from. -/
theorem stripAnchors_ne_unanchored_backslash :
    stripAnchors "a\\\\$".toList ≠ unanchored "a\\\\$".toList ∧
      (drawable? (String.ofList (unanchored "a\\\\$".toList))).isSome = true ∧
        ∀ now seed,
          (value now (.fromRegex "a\\\\$") seed).1 = .error (.invalidPattern "a\\\\$") := by
  have hnone : drawable? "a\\\\$" = none := by decide +kernel
  refine ⟨by decide +kernel, by decide +kernel, fun now seed => ?_⟩
  rw [value, fromPattern, hnone]
  rfl

end MockApi.Sample
