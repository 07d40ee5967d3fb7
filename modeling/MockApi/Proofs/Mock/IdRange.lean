import MockApi.Proofs.Mock.Evaluator
import MockApi.Proofs.Mock.Steps
import MockApi.Proofs.Mock.Typed
import MockApi.Proofs.Number.Integer
import MockApi.Sample.Value

/-! # The range of ids

A draw is less than the modulus, and its fraction of the range is added to the least id. Every step
of that calculation is rounded, but rounding keeps the order, so no id is larger than that of the
largest draw. A key that names an id asks for ids from one to a thousand, and for those the largest
draw stays in the range. So a number with such a key is an id of the range, and wherever it stands
in nested items its ids are.
-/

namespace MockApi

namespace SeededId

open Double

/-- The fraction of the modulus that a draw is. -/
def fraction (draw : ℕ) : Float := Float.ofNat draw / Float.ofNat modulus.toNat

/-- The part of a range that a draw stands for. -/
def share (max draw : ℕ) : Float := fraction draw * Float.ofNat max

/-- What is added to the least id for a draw. -/
def offset (max draw : ℕ) : ℕ := toNat64 (floor (share max draw))

theorem toNat_modulus : modulus.toNat = 233280 := rfl

theorem draw_lt (seed : UInt64) (key : String) (position : UInt64) :
    (draw seed key position).toNat < modulus.toNat := by
  rw [draw, UInt64.toNat_mod]
  exact Nat.mod_lt _ (by decide)

theorem id_eq (min max seed : UInt64) (key : String) (position : UInt64) :
    id min max seed key position =
      Nat.min (min.toNat + offset max.toNat (draw seed key position).toNat) maxNat64 := rfl

section

variable {d d' max : ℕ}

theorem rounds_fraction (hd : d ≤ modulus.toNat) :
    Rounds (d / modulus.toNat) (fraction d).toModel.unpack := by
  have hmodulus := toNat_modulus
  exact rounds_div (stands_ofNat_of_lt (by omega)) (stands_ofNat_of_lt (by omega))
    (Nat.cast_ne_zero.mpr (by omega))

theorem fraction_bounds (hd : d ≤ modulus.toNat) :
    (fraction d).isFinite = true ∧ 0 ≤ toRat (fraction d) ∧ toRat (fraction d) ≤ 1 := by
  have hle : (d / modulus.toNat : ℚ) ≤ (1 : ℕ) := by
    rw [Nat.cast_one]
    exact div_le_one_of_le₀ (by exact_mod_cast hd) (Nat.cast_nonneg _)
  have hbounds := (rounds_fraction hd).bounds (by decide) (by positivity) hle
  rwa [Nat.cast_one] at hbounds

theorem rounds_share (hmax : max < 2 ^ 53) (hd : d ≤ modulus.toNat) :
    Rounds (toRat (fraction d) * max) (share max d).toModel.unpack :=
  rounds_mul (stands_toRat (fraction_bounds hd).1) (stands_ofNat_of_lt hmax)

theorem isFinite_share (hmax : max < 2 ^ 53) (hd : d ≤ modulus.toNat) :
    (share max d).isFinite = true := by
  obtain ⟨-, hlow, hhigh⟩ := fraction_bounds hd
  have hmax' : (0 : ℚ) ≤ max := Nat.cast_nonneg max
  exact ((rounds_share hmax hd).bounds hmax (mul_nonneg hlow hmax')
    (mul_le_of_le_one_left hmax' hhigh)).1

/-- More is added for larger draws. -/
theorem offset_mono (hmax : max < 2 ^ 53) (hd : d ≤ d') (hd' : d' ≤ modulus.toNat) :
    offset max d ≤ offset max d' := by
  have hfraction : toRat (fraction d) ≤ toRat (fraction d') :=
    (rounds_fraction (hd.trans hd')).toRat_mono (rounds_fraction hd')
      (fraction_bounds (hd.trans hd')).1 (fraction_bounds hd').1 (by gcongr)
  have hfinite := isFinite_share hmax (hd.trans hd')
  have hfinite' := isFinite_share hmax hd'
  have hshare : toRat (share max d) ≤ toRat (share max d') :=
    (rounds_share hmax (hd.trans hd')).toRat_mono (rounds_share hmax hd') hfinite hfinite'
      (by gcongr)
  rw [offset, offset, toNat64_of_stands (stands_floor (stands_toRat hfinite)),
    toNat64_of_stands (stands_floor (stands_toRat hfinite'))]
  exact Int.toNat_le_toNat (max_le_max le_rfl (min_le_min le_rfl (Int.floor_mono hshare)))

end

/-- An id is neither below the least one nor above that of the largest draw. -/
theorem id_mem (min max seed : UInt64) (key : String) (position : UInt64)
    (hmax : max.toNat < 2 ^ 53) :
    min.toNat ≤ id min max seed key position ∧
      id min max seed key position ≤ min.toNat + offset max.toNat (modulus.toNat - 1) := by
  have hdraw := draw_lt seed key position
  have hoffset := offset_mono hmax (Nat.le_sub_one_of_lt hdraw) (Nat.sub_le _ _)
  have hmin : min.toNat ≤ maxNat64 := Nat.le_sub_one_of_lt min.toNat_lt
  rw [id_eq]
  exact ⟨le_min (Nat.le_add_right _ _) hmin,
    (min_le_left _ _).trans (Nat.add_le_add_left hoffset _)⟩

theorem offset_thousand : offset (1000 : UInt64).toNat (modulus.toNat - 1) = 999 := by
  decide +kernel

theorem id_one_thousand_mem (seed : UInt64) (key : String) (position : UInt64) :
    1 ≤ id 1 1000 seed key position ∧ id 1 1000 seed key position ≤ 1000 := by
  have hmem := id_mem 1 1000 seed key position (by decide)
  rwa [offset_thousand] at hmem

end SeededId

/-! ## Values in nested items -/

/-- What lies at a place among nested items: an index for each array, outermost first. -/
def Json.item? : Json → List ℕ → Option Json
  | v, [] => some v
  | .array items, index :: place => items[index]?.bind fun v => v.item? place
  | _, _ :: _ => none

namespace Expression

/-- An expression in items of items, with a count for each array, outermost first. -/
def repeated (counts : List ℕ) (e : Expression) : Expression := counts.foldr .copies e

/-- A value that depends on the place alone lies at each place among nested items. -/
theorem exists_materialize_repeated {σ : Type} {g : Generator σ} {e : Expression}
    {value : List ℕ → Json} (h : ∀ path, materialize g path e = Making.pure (value path))
    (counts path : List ℕ) :
    ∃ v, materialize g path (repeated counts e) = Making.pure v ∧
      ∀ place, List.Forall₂ (· < ·) place counts →
        v.item? place = some (value (path ++ place)) := by
  induction counts generalizing path with
  | nil =>
      refine ⟨value path, h path, fun place hplace => ?_⟩
      obtain rfl := List.forall₂_nil_right_iff.mp hplace
      rw [Json.item?, List.append_nil]
  | cons count counts ih =>
      choose item hitem hvalue using fun i => ih (path ++ [i])
      refine ⟨.array ((List.range' 0 count).map item), ?_, fun place hplace => ?_⟩
      · have hitems := Making.forIndices_pure hitem count 0 []
        rw [repeated, List.foldr_cons, materialize]
        exact congrArg (Making.bind · _) hitems
      · cases hplace with
        | @cons index _ place _ hindex hplace =>
            have hget : ((List.range' 0 count).map item)[index]? = some (item index) := by
              simp [hindex]
            rw [Json.item?, hget, Option.bind_some, hvalue index place hplace, List.append_assoc]
            rfl

end Expression

/-! ## Numbers whose key names an id -/

namespace Compiler

open Expression

variable {c : Compiler} {s : Schema} {site : Site}

/-- The node is compiled as a number: nothing of its own decides for it, it has no alternatives, and
its type is one of numbers. With `allOf`, what it is flattened to is compiled so. -/
inductive NumberNode (c : Compiler) (site : Site) : Schema → Prop
  | itself {s : Schema} (own : c.ownExpression? s site = none) (allOf : s.allOf = none)
      (alternatives : s.alternatives = none) (type : typeOf s = .number ∨ typeOf s = .integer) :
      NumberNode c site s
  | flattened {s : Schema} (own : c.ownExpression? s site = none) (allOf : s.allOf.isSome)
      (rest : NumberNode c site s.flattenAllOf) : NumberNode c site s

theorem NumberNode.exists_keywords (h : c.NumberNode site s) :
    ∃ k, (c.compile (some s) site).expression = .call (c.numberCapability k site.key) := by
  induction h with
  | @itself s own allOf alternatives type =>
      refine ⟨s.keywords, ?_⟩
      rw [expression_compile, plan_of_type own allOf alternatives, planOfType]
      rcases type with type | type <;> rw [type] <;> rfl
  | flattened own allOf rest ih =>
      rw [expression_compile, plan_of_allOf own allOf]
      exact ih

/-- A number whose key names an id is made up as an id from one to a thousand at each place among
nested items, whatever the generator is and wherever the evaluator stands. -/
theorem exists_ids_of_numberKey {σ : Type} {key name : String} {min max seed : UInt64}
    (hs : c.NumberNode site s) (hsite : site.key = some key)
    (hkey : Capability.ofNumberKey? c.year key = some (.seededId min max seed name))
    (counts : List ℕ) (g : Generator σ) (ev : Evaluator σ) :
    ∃ v, Evaluator.materialize g (repeated counts (c.compile (some s) site).expression) ev =
        (.ok v, ev) ∧
      ∀ place, List.Forall₂ (· < ·) place counts →
        ∃ n, v.item? place = some (.nat n) ∧ 1 ≤ n ∧ n ≤ 1000 := by
  obtain ⟨k, hexpression⟩ := hs.exists_keywords
  obtain ⟨rfl, rfl⟩ : min = 1 ∧ max = 1000 := by
    obtain h | ⟨low, high, h⟩ | h := Capability.cases_of_numberKey hkey
    · cases h
    · cases h
    · cases h
      exact ⟨rfl, rfl⟩
  have hcapability : c.numberCapability k site.key = .seededId 1 1000 seed name := by
    rw [numberCapability, hsite, Option.bind_some, hkey, Option.getD_some]
  have hat (path : List ℕ) : Expression.materialize g path (.call (.seededId 1 1000 seed name)) =
      Making.pure (.nat (SeededId.id 1 1000 seed name (SeededId.position path))) := by
    rw [Expression.materialize]
    rfl
  obtain ⟨v, hv, hids⟩ := exists_materialize_repeated hat counts ev.itemPath
  refine ⟨v, ?_, fun place hplace => ⟨_, hids place hplace, ?_⟩⟩
  · rw [hexpression, hcapability, Evaluator.materialize_eq_located, Evaluator.located, hv]
    rfl
  · exact SeededId.id_one_thousand_mem seed name _

/-- The number of a guest, put together from two schemas. -/
def guest : Schema :=
  { allOf := some [{ keywords := { type := some .integer } },
      { keywords := { minimum := some 5000 } }] }

/-- The second of three guests in the second of two rooms. The key decides, and not the bound. -/
theorem exists_ids_of_numberKey_guest :
    let c : Compiler := ⟨⟨"/rooms", .get, 5, false, false, []⟩, ⟨fun _ => none⟩, 2024⟩
    let site : Site := { key := some "guest_id", insideArray := true }
    c.NumberNode site guest ∧
      Capability.ofNumberKey? c.year "guest_id" = some (.seededId 1 1000 123 "guest_id") ∧
      ∃ v, Evaluator.materialize (Sample.generator ⟨0⟩)
          (repeated [2, 3] (c.compile (some guest) site).expression) { generator := ⟨0⟩ } =
            (.ok v, { generator := ⟨0⟩ }) ∧
        ∃ n, v.item? [1, 1] = some (.nat n) ∧ 1 ≤ n ∧ n ≤ 1000 := by
  intro c site
  have hnode : c.NumberNode site guest :=
    .flattened (by cbv) rfl (.itself (by cbv) (by cbv) (by cbv) (.inr (by cbv)))
  have hkey : Capability.ofNumberKey? c.year "guest_id" =
      some (.seededId 1 1000 123 "guest_id") := rfl
  obtain ⟨v, hv, hids⟩ := exists_ids_of_numberKey hnode rfl hkey [2, 3] (Sample.generator ⟨0⟩)
    { generator := ⟨0⟩ }
  exact ⟨hnode, hkey, v, hv, hids [1, 1] (.cons (by decide) (.cons (by decide) .nil))⟩

end Compiler

end MockApi
