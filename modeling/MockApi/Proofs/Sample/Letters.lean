import MockApi.Proofs.Mock.StringNodes
import MockApi.Proofs.Sample.Value

/-! # Letters of a declared length

Length bounds pass two places. Compiling exchanges reversed bounds and drops those that ask for
nothing; drawing fills in what is missing, raises the upper bound to the lower one and keeps to a
limit. Both together draw a length between the declared ones, never from an empty range, and fail
just where the lower one is beyond the limit.
-/

namespace MockApi

namespace Sample

namespace Draw

variable {α : Type} {P : α → Prop}

/-- A number is drawn from its range. -/
theorem always_nat {low high : Nat} (h : low ≤ high) :
    (nat low high).Always fun n => low ≤ n ∧ n ≤ high := by
  refine (always_below (Nat.succ_pos _)).bind fun n hn => always_pure ?_
  omega

theorem always_oneOf (default : α) {options : List α} (h : options ≠ []) :
    (oneOf default options).Always (· ∈ options) := by
  refine (always_below (List.length_pos_iff.mpr h)).bind fun n hn => always_pure ?_
  rw [List.getElem?_eq_getElem hn, Option.getD_some]
  exact List.getElem_mem hn

theorem always_times {m : Draw α} (h : m.Always P) (count : Nat) :
    (times m count).Always fun xs => xs.length = count ∧ ∀ x ∈ xs, P x := by
  induction count with
  | zero => exact always_pure ⟨rfl, nofun⟩
  | succ count ih =>
      refine h.bind fun x hx => ih.bind fun xs hxs => always_pure ⟨?_, ?_⟩
      · rw [List.length_cons, hxs.1]
      · exact List.forall_mem_cons.mpr ⟨hx, hxs.2⟩

/-- A text has the length and the characters that are asked for. -/
theorem always_text {alphabet : List Char} (h : alphabet ≠ []) (length : Nat) :
    (text alphabet length).Always fun t =>
      t.length = length ∧ ∀ c ∈ t.toList, c ∈ alphabet := by
  refine (always_times (always_oneOf ' ' h) length).bind fun cs hcs => always_pure ?_
  rw [String.length_ofList, String.toList_ofList]
  exact hcs

end Draw

open Draw

/-! ## Drawing -/

theorem isAlpha_of_mem_letters {c : Char} (h : c ∈ letters) : c.isAlpha = true := by
  have hall : letters.all Char.isAlpha = true := by decide
  exact List.all_eq_true.mp hall c h

/-- Letters of a length between two others. -/
def lettersBetween (low high : Nat) : Draw (Except MockError Json) := do
  return .ok (.string (← Draw.text letters (← Draw.nat low high)))

/-- A text of letters with a length between two others and within the limit. -/
structure IsLetters (low high : Nat) (t : String) : Prop where
  letters : ∀ c ∈ t.toList, c.isAlpha = true
  low : low ≤ t.length
  high : t.length ≤ high
  limit : t.length ≤ maxLength

/-- The outcome is a failure just where the lower length is beyond the limit, else letters. -/
def KeepsLengths (low high : Nat) (outcome : Except MockError Json) : Prop :=
  maxLength < low ∧ outcome = .error (.lengthTooLarge low maxLength) ∨
    low ≤ maxLength ∧ ∃ t, outcome = .ok (.string t) ∧ IsLetters low high t

theorem lettersWithin_of_lt {minLength : Option Nat} (maxLetters : Option Nat)
    (h : maxLength < minLength.getD 1) : lettersWithin minLength maxLetters =
      pure (.error (.lengthTooLarge (minLength.getD 1) maxLength)) :=
  if_pos h

theorem lettersWithin_of_le {minLength maxLetters : Option Nat} (h : minLength.getD 1 ≤ maxLength)
    (hle : minLength.getD 1 ≤ maxLetters.getD (minLength.getD 1 + extraLength)) :
    lettersWithin minLength maxLetters = lettersBetween (minLength.getD 1)
      (min (maxLetters.getD (minLength.getD 1 + extraLength)) maxLength) := by
  rw [lettersWithin]
  dsimp only
  rw [if_neg (Nat.not_lt.mpr h), Nat.max_eq_left hle]
  rfl

theorem always_lettersBetween {low high : Nat} (hlimit : low ≤ maxLength) (h : low ≤ high) :
    (lettersBetween low (min high maxLength)).Always (KeepsLengths low high) := by
  refine (always_nat (Nat.le_min.mpr ⟨h, hlimit⟩)).bind fun length hlength => ?_
  refine (always_text (by decide) length).bind fun t ht => always_pure (.inr ⟨hlimit, t, rfl, ?_⟩)
  rw [Nat.le_min, ← ht.1] at hlength
  exact ⟨fun c hc => isAlpha_of_mem_letters (ht.2 c hc), hlength.1, hlength.2.1, hlength.2.2⟩

end Sample

open Sample

/-! ## Compiling -/

/-- The lengths that bounds declare: both bounds in order, up to ten more than a lower bound alone,
and one up to an upper bound alone. A bound of zero alone declares nothing. -/
inductive DeclaredLengths : Option Nat → Option Nat → Nat → Nat → Prop
  | both (m n : Nat) : DeclaredLengths (some m) (some n) (min m n) (max m n)
  | lower {m : Nat} (pos : 0 < m) : DeclaredLengths (some m) none m (m + extraLength)
  | upper {n : Nat} (pos : 0 < n) : DeclaredLengths none (some n) 1 n

theorem DeclaredLengths.le {minLength maxLength : Option Nat} {low high : Nat}
    (h : DeclaredLengths minLength maxLength low high) : low ≤ high := by
  cases h with
  | both m n => exact min_le_max
  | lower pos => exact Nat.le_add_right _ _
  | upper pos => exact pos

namespace Compiler

variable {c : Compiler} {s : Schema} {site : Site}

/-- The bounds of letters, with what is missing filled in, are the declared lengths. -/
theorem declaredLengths_of_lettersFor {minLength maxLength lo hi : Option Nat}
    (h : lettersFor minLength maxLength = .alpha lo hi) :
    DeclaredLengths minLength maxLength (lo.getD 1) (hi.getD (lo.getD 1 + extraLength)) := by
  unfold lettersFor at h
  split at h
  next m n =>
    cases h
    exact .both m n
  next m =>
    split at h
    next pos =>
      cases h
      exact .lower pos
    next => cases h
  next n =>
    split at h
    next pos =>
      cases h
      exact .upper pos
    next => cases h
  next => cases h

/-- Only length bounds ask for letters. -/
theorem lettersFor_of_stringCapability {k : Keywords} {key : Option String}
    {lo hi : Option Nat} (h : (c.stringCapability k key).1 = .alpha lo hi) :
    lettersFor k.minLength k.maxLength = .alpha lo hi := by
  rcases c.stringCapability_cases k key with hfixed | ⟨pattern, -, hpattern⟩ | hletters
  · exact absurd (h ▸ hfixed) (Capability.alpha_notMem_fixed lo hi)
  · cases hpattern.symm.trans h
  · exact hletters.symm.trans h

/-- A schema that becomes letters declares lengths, and what is drawn keeps them: it fails just
where the lower length is beyond the limit, and the length is drawn from a range that is not empty.
-/
theorem letters_of_compile {lo hi : Option Nat}
    (h : (c.compile (some s) site).expression = .call (.alpha lo hi)) :
    ∃ t low high, c.BecomesString site s t ∧
      DeclaredLengths t.keywords.minLength t.keywords.maxLength low high ∧
      (low ≤ Sample.maxLength → low ≤ min high Sample.maxLength ∧
        lettersWithin lo hi = lettersBetween low (min high Sample.maxLength)) ∧
      ∀ now path seed, KeepsLengths low high
        ((c.compile (some s) site).expression.materialize (generator now) path seed).1 := by
  obtain ⟨t, ht, hcapability⟩ := exists_becomesString rfl h
  have hlengths := declaredLengths_of_lettersFor (lettersFor_of_stringCapability hcapability)
  refine ⟨t, _, _, ht, hlengths, ?_, ?_⟩
  · intro hlimit
    exact ⟨Nat.le_min.mpr ⟨hlengths.le, hlimit⟩, lettersWithin_of_le hlimit hlengths.le⟩
  · intro now path seed
    rw [h]
    show KeepsLengths _ _ (lettersWithin lo hi seed).1
    by_cases hlimit : lo.getD 1 ≤ Sample.maxLength
    · rw [lettersWithin_of_le hlimit hlengths.le]
      exact always_lettersBetween hlimit hlengths.le seed
    · have hlt := Nat.not_le.mp hlimit
      rw [lettersWithin_of_lt hi hlt]
      exact .inl ⟨hlt, rfl⟩

/-- Bounds that two branches declare in reverse are exchanged. -/
theorem letters_of_compile_reversed :
    let c : Compiler := ⟨⟨"/users", .get, 5, true, false, []⟩, ⟨fun _ => none⟩, 2024⟩
    let s : Schema := {
      allOf := some [{ keywords := { type := some .string, minLength := some 8 } },
        { keywords := { maxLength := some 2 } }] }
    (c.compile (some s) {}).expression = .call (.alpha (some 2) (some 8)) ∧
      ∀ now seed, KeepsLengths 2 8
        ((c.compile (some s) {}).expression.materialize (generator now) [] seed).1 := by
  intro c s
  let whole : Schema :=
    { keywords := { type := some .string, minLength := some 8, maxLength := some 2 } }
  have hwhole : c.BecomesString {} whole whole := .itself rfl rfl rfl rfl
  have hflattened : s.flattenAllOf = whole := by cbv
  have hbecomes : c.BecomesString {} s whole := .flattened rfl rfl (hflattened ▸ hwhole)
  have hcompiled : (c.compile (some s) {}).expression = .call (.alpha (some 2) (some 8)) :=
    hbecomes.compile.1
  obtain ⟨t, low, high, ht, hlengths, -, hkeeps⟩ := letters_of_compile hcompiled
  obtain rfl := ht.unique hbecomes
  cases hlengths with
  | both => exact ⟨hcompiled, fun now seed => hkeeps now [] seed⟩

end Compiler

end MockApi
