import Mathlib.Data.List.Forall2
import MockApi.Mock.Evaluate

/-! # The values that an expression can yield

Which value an evaluation gives depends on the generator's state and on the place among array items.
Leaving both open, an expression can yield some values and not others, and what it can yield follows
from what its parts can yield.
-/

namespace MockApi

variable {σ : Type}

namespace Making

variable {α β : Type}

theorem exists_of_bind_eq_ok {m : Making σ α} {f : α → Making σ β} {s : σ} {y : β}
    (h : (bind m f s).1 = .ok y) : ∃ x s', m s = (.ok x, s') ∧ (f x s').1 = .ok y := by
  unfold bind at h
  split at h
  next x s' hm => exact ⟨x, s', hm, h⟩
  next => cases h

theorem exists_of_forIndices_eq_ok {f : Nat → Making σ α} {count index : Nat} {done xs : List α}
    {s : σ} (h : (forIndices f count index done s).1 = .ok xs) :
    ∃ made, xs = done.reverse ++ made ∧ made.length = count ∧
      ∀ i x, made[i]? = some x → ∃ s', (f (index + i) s').1 = .ok x := by
  induction count generalizing index done s with
  | zero =>
      rw [forIndices] at h
      obtain rfl := Except.ok.inj h
      exact ⟨[], by simp, rfl, by simp⟩
  | succ count ih =>
      rw [forIndices] at h
      obtain ⟨x, s', hx, h⟩ := exists_of_bind_eq_ok h
      obtain ⟨made, rfl, hlength, hmade⟩ := ih h
      refine ⟨x :: made, by simp, by simp [hlength], ?_⟩
      intro i y hy
      cases i with
      | zero =>
          obtain rfl := Option.some.inj hy
          exact ⟨s, by rw [Nat.add_zero, hx]⟩
      | succ i =>
          obtain ⟨s'', hs⟩ := hmade i y hy
          exact ⟨s'', by rwa [Nat.add_right_comm] at hs⟩

/-- Computations that move no generator give all their values. -/
theorem forIndices_pure {f : Nat → Making σ α} {x : Nat → α} (h : ∀ i, f i = Making.pure (x i))
    (count index : Nat) (done : List α) :
    forIndices f count index done =
      Making.pure (done.reverse ++ (List.range' index count).map x) := by
  induction count generalizing index done with
  | zero => simp [forIndices]
  | succ count ih =>
      have hnext := ih (index + 1) (x index :: done)
      rw [List.reverse_cons, List.append_assoc] at hnext
      rw [forIndices, h, List.range'_succ]
      exact hnext

end Making

namespace Expression

/-- Some evaluation of the expression at a place gives the value. -/
def YieldsAt (g : Generator σ) (path : List Nat) (e : Expression) (v : Json) : Prop :=
  ∃ s, (materialize g path e s).1 = .ok v

/-- Some evaluation of the expression gives the value. -/
def Yields (g : Generator σ) (e : Expression) (v : Json) : Prop :=
  ∃ path s, (materialize g path e s).1 = .ok v

/-- Some evaluation of the entry gives the member. -/
def EntryYields (g : Generator σ) (entry : EntryKey Expression × Expression)
    (member : String × Json) : Prop :=
  (match entry.1 with
    | .fixed name => member.1 = name
    | .generated key => ∃ k, Yields g key k ∧ member.1 = keyText k) ∧
  Yields g entry.2 member.2

variable {g : Generator σ}

theorem YieldsAt.of_literal {path : List Nat} {x v : Json} (h : YieldsAt g path (.literal x) v) :
    v = x := by
  obtain ⟨s, h⟩ := h
  rw [materialize] at h
  exact (Except.ok.inj h).symm

/-- The items of an array are made up one index deeper each. -/
theorem YieldsAt.of_copies {path : List Nat} {count : Nat} {item : Expression} {v : Json}
    (h : YieldsAt g path (.copies count item) v) :
    ∃ xs, v = .array xs ∧ xs.length = count ∧
      ∀ i x, xs[i]? = some x → YieldsAt g (path ++ [i]) item x := by
  obtain ⟨s, h⟩ := h
  rw [materialize] at h
  obtain ⟨xs, s', hxs, h⟩ := Making.exists_of_bind_eq_ok h
  obtain ⟨made, heq, hlength, hmade⟩ := Making.exists_of_forIndices_eq_ok (by rw [hxs])
  rw [List.reverse_nil, List.nil_append] at heq
  subst heq
  refine ⟨xs, (Except.ok.inj h).symm, hlength, fun i x hx => ?_⟩
  rw [← Nat.zero_add i]
  exact hmade i x hx

theorem Yields.of_literal {x v : Json} (h : Yields g (.literal x) v) : v = x :=
  have ⟨_, hat⟩ := h
  YieldsAt.of_literal hat

/-- A seeded id follows from the place; any other capability is answered by the generator. -/
theorem Yields.of_call {capability : Capability} {v : Json} (h : Yields g (.call capability) v) :
    (∃ s, (g.generate capability s).1 = .ok v) ∨
      ∃ min max seed key n, capability = .seededId min max seed key ∧ v = Json.nat n := by
  obtain ⟨path, s, h⟩ := h
  rw [materialize] at h
  unfold answer at h
  split at h
  next min max seed key => exact .inr ⟨min, max, seed, key, _, rfl, (Except.ok.inj h).symm⟩
  next => exact .inl ⟨s, h⟩

theorem Yields.of_copies {count : Nat} {item : Expression} {v : Json}
    (h : Yields g (.copies count item) v) :
    ∃ xs, v = .array xs ∧ xs.length = count ∧ ∀ x ∈ xs, Yields g item x := by
  obtain ⟨path, hat⟩ := h
  obtain ⟨xs, rfl, hlength, hitems⟩ := YieldsAt.of_copies hat
  refine ⟨xs, rfl, hlength, fun x hx => ?_⟩
  obtain ⟨i, hi⟩ := List.mem_iff_getElem?.mp hx
  exact ⟨_, hitems i x hi⟩

theorem exists_of_materializeEntries_eq_ok {path : List Nat}
    {entries : List (EntryKey Expression × Expression)} {done members : List (String × Json)}
    {s : σ} (h : (materializeEntries g path entries done s).1 = .ok members) :
    ∃ made, List.Forall₂ (EntryYields g) entries made ∧
      members = made.foldl (fun acc x => Entries.insert acc x.1 x.2) done := by
  induction entries generalizing done s with
  | nil =>
      rw [materializeEntries] at h
      exact ⟨[], .nil, (Except.ok.inj h).symm⟩
  | cons entry rest ih =>
      rcases entry with ⟨key, value⟩
      cases key with
      | fixed name =>
          rw [materializeEntries] at h
          obtain ⟨v, s', hv, h⟩ := Making.exists_of_bind_eq_ok h
          obtain ⟨made, hmade, rfl⟩ := ih h
          exact ⟨(name, v) :: made, .cons ⟨rfl, path, s, by rw [hv]⟩ hmade, rfl⟩
      | generated key =>
          rw [materializeEntries] at h
          obtain ⟨k, s', hk, h⟩ := Making.exists_of_bind_eq_ok h
          obtain ⟨v, s'', hv, h⟩ := Making.exists_of_bind_eq_ok h
          obtain ⟨made, hmade, rfl⟩ := ih h
          exact ⟨(keyText k, v) :: made,
            .cons ⟨⟨k, ⟨path, s, by rw [hk]⟩, rfl⟩, path, s', by rw [hv]⟩ hmade, rfl⟩

/-- The members of an object come from its entries in order; a later one replaces an earlier one of
the same key. -/
theorem Yields.of_object {entries : List (EntryKey Expression × Expression)} {v : Json}
    (h : Yields g (.object entries) v) :
    ∃ made, List.Forall₂ (EntryYields g) entries made ∧
      v = .object (made.foldl (fun acc x => Entries.insert acc x.1 x.2) []) := by
  obtain ⟨path, s, h⟩ := h
  rw [materialize] at h
  obtain ⟨members, s', hmembers, h⟩ := Making.exists_of_bind_eq_ok h
  obtain ⟨made, hmade, rfl⟩ := exists_of_materializeEntries_eq_ok (by rw [hmembers])
  exact ⟨made, hmade, (Except.ok.inj h).symm⟩

end Expression

end MockApi
