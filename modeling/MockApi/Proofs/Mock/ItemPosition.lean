import Mathlib.Data.List.Induction
import Mathlib.Tactic.Ring
import MockApi.Mock.SeededId

/-! # Positions of array items

The indices of the array items around a value are the digits of its position, each one more than the
index, in base 31. Digits from 1 to 31 leave no number with two spellings, not even with a different
count of digits. Paths of up to twelve indices below 31 stay within 64 bits, so that their positions
are these numbers, all different and zero only outside of arrays.
-/

namespace MockApi.SeededId

/-- The number in base 31 whose digits are the indices of a path, each one larger. -/
def numeral (path : List ℕ) : ℕ := path.foldl (fun acc index => acc * 31 + (index + 1)) 0

/-- Array items in at most twelve arrays around each other, of at most 31 items each. -/
structure IsShallow (path : List ℕ) : Prop where
  items : ∀ index ∈ path, index < 31
  depth : path.length ≤ 12

theorem numeral_concat (path : List ℕ) (index : ℕ) :
    numeral (path ++ [index]) = numeral path * 31 + (index + 1) := by
  simp [numeral]

theorem position_concat (path : List ℕ) (index : ℕ) :
    position (path ++ [index]) = position path * 31 + (UInt64.ofNat index + 1) := by
  simp [position]

/-! ## Numerals -/

section

variable {p q : List ℕ}

theorem numeral_eq_zero_iff (p : List ℕ) : numeral p = 0 ↔ p = [] := by
  induction p using List.reverseRecOn with
  | nil => simp [numeral]
  | append_singleton p i _ => simp [numeral_concat]

/-- The last digit and what stands before it can be read off a number. -/
theorem numeral_injective (hp : ∀ i ∈ p, i < 31) (hq : ∀ i ∈ q, i < 31)
    (h : numeral p = numeral q) : p = q := by
  induction p using List.reverseRecOn generalizing q with
  | nil => exact ((numeral_eq_zero_iff q).mp h.symm).symm
  | append_singleton p i ih =>
      cases q using List.reverseRecOn with
      | nil => exact (numeral_eq_zero_iff _).mp h
      | append_singleton q j =>
          rw [List.forall_mem_append, List.forall_mem_singleton] at hp hq
          rw [numeral_concat, numeral_concat] at h
          obtain ⟨hlast, hfirst⟩ : i = j ∧ numeral p = numeral q := by omega
          rw [hlast, ih hp.1 hq.1 hfirst]

/-- No number of as many digits is larger than that of all digits 31. -/
theorem numeral_le (hp : ∀ i ∈ p, i < 31) : numeral p * 30 + 31 ≤ 31 ^ (p.length + 1) := by
  induction p using List.reverseRecOn with
  | nil => simp [numeral]
  | append_singleton p i ih =>
      rw [List.forall_mem_append, List.forall_mem_singleton] at hp
      have hfirst := ih hp.1
      have hi := hp.2
      have hpow : 31 ^ (p.length + 1 + 1) = 31 ^ (p.length + 1) * 31 := pow_succ _ _
      rw [numeral_concat, List.length_append, List.length_singleton, hpow]
      omega

/-! ## Positions -/

theorem IsShallow.of_append {before after : List ℕ} (h : IsShallow (before ++ after)) :
    IsShallow before where
  items := fun i hi => h.items i (List.mem_append_left _ hi)
  depth := (List.length_append ▸ Nat.le_add_right _ _).trans h.depth

theorem IsShallow.numeral_lt (h : IsShallow p) : numeral p < UInt64.size := by
  have hle := numeral_le h.items
  have hpow : 31 ^ (p.length + 1) ≤ 31 ^ 13 :=
    Nat.pow_le_pow_right (by decide) (Nat.succ_le_succ h.depth)
  have hsize : UInt64.size = 2 ^ 64 := rfl
  omega

/-- On shallow paths nothing wraps. -/
theorem toNat_position (h : IsShallow p) : (position p).toNat = numeral p := by
  induction p using List.reverseRecOn with
  | nil => rfl
  | append_singleton p i ih =>
      have hlt := h.numeral_lt
      have hsize : UInt64.size = 2 ^ 64 := rfl
      have hbase : (31 : UInt64).toNat = 31 := rfl
      have hone : (1 : UInt64).toNat = 1 := rfl
      rw [numeral_concat] at hlt ⊢
      rw [position_concat, UInt64.toNat_add, UInt64.toNat_mul, UInt64.toNat_add, ih h.of_append,
        UInt64.toNat_ofNat', hbase, hone]
      omega

/-- Different shallow paths have different positions, and only the empty one has position zero. At
each step from the outside in, the exact number fits into 64 bits. -/
theorem position_injective (hp : IsShallow p) (hq : IsShallow q) :
    (position p = position q ↔ p = q) ∧ (position p = 0 ↔ p = []) ∧
      ∀ before index, before ++ [index] <+: p →
        (position before).toNat * 31 + (index + 1) < UInt64.size ∧
          (position (before ++ [index])).toNat = (position before).toNat * 31 + (index + 1) := by
  refine ⟨⟨fun h => ?_, congrArg position⟩, ⟨fun h => ?_, fun h => h ▸ rfl⟩, ?_⟩
  · refine numeral_injective hp.items hq.items ?_
    rw [← toNat_position hp, ← toNat_position hq, h]
  · rw [← numeral_eq_zero_iff, ← toNat_position hp, h]
    rfl
  · rintro before index ⟨after, rfl⟩
    have hstep := hp.of_append
    rw [toNat_position hstep, toNat_position hstep.of_append, ← numeral_concat]
    exact ⟨hstep.numeral_lt, rfl⟩

end

/-- The last item of the longest lists, twelve levels deep, and the first item of a list in the
items of a longer one. -/
theorem position_injective_deepest :
    let deepest := List.replicate 12 30
    IsShallow deepest ∧ IsShallow [30, 0] ∧ position deepest ≠ position [30, 0] := by
  intro deepest
  have hdeepest : IsShallow deepest := ⟨by decide, by decide⟩
  have hpair : IsShallow [30, 0] := ⟨by decide, by decide⟩
  exact ⟨hdeepest, hpair, fun h =>
    absurd ((position_injective hdeepest hpair).1.mp h) (by decide)⟩

-- one level deeper the last item does not fit any more
example : (position (List.replicate 13 30)).toNat ≠ numeral (List.replicate 13 30) := by decide

end MockApi.SeededId
