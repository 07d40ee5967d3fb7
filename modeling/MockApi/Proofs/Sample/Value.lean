import MockApi.Proofs.Mock.Typed
import MockApi.Proofs.Number.Product
import MockApi.Sample.Value

/-! # What is drawn for a capability

A string is drawn just where the capability is one of strings. A multiple that is drawn is an
integer of 64 bits times the step, so it is whole where the step is, unless it is out of the range
of doubles.
-/

namespace MockApi

/-- True of numbers without a fraction. -/
def Json.isIntegral : Json → Bool
  | .number (.integer _) => true
  | .number (.double x) => Double.isWhole x
  | _ => false

namespace Sample

/-- Whatever the seed, what is drawn has the property. -/
def Draw.Always {α : Type} (P : α → Prop) (m : Draw α) : Prop := ∀ s, P (m s).1

/-- Whatever the seed, a value that is drawn has the property; drawing may fail. -/
def Gives (P : Json → Prop) (m : Draw (Except MockError Json)) : Prop :=
  m.Always fun outcome => ∀ v, outcome = .ok v → P v

namespace Draw

variable {α β : Type} {P : α → Prop} {Q : β → Prop}

theorem always_pure {x : α} (h : P x) : Always P (pure x) := fun _ => h

theorem Always.bind {m : Draw α} {f : α → Draw β} (hm : m.Always P)
    (hf : ∀ x, P x → (f x).Always Q) : (m >>= f).Always Q :=
  fun s => hf _ (hm s) _

theorem always_bind (m : Draw α) {f : α → Draw β} (hf : ∀ x, (f x).Always Q) :
    (m >>= f).Always Q :=
  fun _ => hf _ _

theorem always_below {bound : Nat} (h : 0 < bound) : (below bound).Always (· < bound) :=
  fun _ => Nat.mod_lt _ h

end Draw

open Draw

section Outcomes

variable {P : Json → Prop}

theorem gives_error (e : MockError) : Gives P (pure (.error e)) := by
  intro s v h
  cases h

theorem gives_ok {v : Json} (h : P v) : Gives P (pure (.ok v)) := by
  intro s w hw
  obtain rfl := Except.ok.inj hw
  exact h

theorem gives_found {m : Draw Json} (h : m.Always P) : Gives P (found m) := by
  refine h.bind fun v hv => ?_
  exact gives_ok hv

theorem gives_text (m : Draw String) : Gives (∃ t, · = .string t) (text m) := by
  refine always_bind m fun t => ?_
  exact gives_ok ⟨t, rfl⟩

end Outcomes

/-! ## Numbers -/

theorem numberJson_ne_string (x : Float) (t : String) : numberJson x ≠ .string t := by
  unfold numberJson Json.int Json.ofFloat
  split
  · exact nofun
  · split <;> exact nofun

theorem isIntegral_ofFloat (x : Float) : (Json.ofFloat x).isIntegral = Double.isWhole x := by
  unfold Json.ofFloat
  split
  next => rfl
  next h => exact (Double.isWhole_of_not_isFinite (Bool.eq_false_iff.mpr h)).symm

theorem isIntegral_numberJson (x : Float) : (numberJson x).isIntegral = Double.isWhole x := by
  unfold numberJson
  split
  next h => exact (Bool.and_elim_left h).symm
  next => exact isIntegral_ofFloat x

theorem numberJson_of_not_isFinite {x : Float} (h : x.isFinite = false) :
    numberJson x = .null := by
  rw [numberJson, Double.isWhole_of_not_isFinite h, Json.ofFloat, h]
  rfl

theorem abs_toInt64_le (x : Float) : |Double.toInt64 x| ≤ 2 ^ 63 := by
  have hlow : Double.minInt64 = -2 ^ 63 := rfl
  have hhigh : Double.maxInt64 = 2 ^ 63 - 1 := rfl
  rw [abs_le, Double.toInt64, Double.clampTo, hlow, hhigh]
  split
  next => omega
  next => split <;> [omega; (split <;> omega)]

/-- An integer that is drawn is no larger than the ends of the range. -/
theorem always_int_le {low high bound : Int} (hlow : |low| ≤ bound) (hhigh : |high| ≤ bound) :
    (Draw.int low high).Always (|·| ≤ bound) := by
  rw [abs_le] at hlow hhigh
  refine (always_below (Nat.succ_pos _)).bind fun n hn => always_pure ?_
  rw [abs_le]
  omega

/-- A step that is not positive counts as one. -/
theorem gives_multiple (min max step : Float) :
    Gives (fun v => ∃ factor : Int, |factor| ≤ 2 ^ 63 ∧
      v = numberJson (Float.ofInt factor * if step > 0 then step else 1))
      (multiple min max step) := by
  unfold multiple
  generalize (if step > 0 then step else 1) = unit
  dsimp only
  split
  · exact gives_error _
  · refine (always_int_le (abs_toInt64_le _) (abs_toInt64_le _)).bind fun factor hfactor => ?_
    exact gives_ok ⟨factor, hfactor, rfl⟩

theorem isIntegral_of_multiple_one {min max : Float} {s : Seed} {v : Json}
    (h : (multiple min max 1 s).1 = .ok v) : v.isIntegral = true := by
  obtain ⟨factor, hfactor, rfl⟩ := gives_multiple min max 1 s v h
  rw [ite_self, isIntegral_numberJson]
  exact Double.isWhole_ofInt_mul_one hfactor

/-- Where a multiple of a positive step is not integral, the step is a fraction or the multiple is
out of range. -/
theorem exists_of_multiple {min max step : Float} {s : Seed} {v : Json} (hstep : 0 < step)
    (h : (multiple min max step s).1 = .ok v) (hv : v.isIntegral = false) :
    ∃ factor : Int, |factor| ≤ 2 ^ 63 ∧ v = numberJson (Float.ofInt factor * step) ∧
      (Double.isWhole step = false ∨ (Float.ofInt factor * step).isFinite = false) := by
  obtain ⟨factor, hfactor, rfl⟩ := gives_multiple min max step s v h
  rw [if_pos hstep] at hv ⊢
  rw [isIntegral_numberJson] at hv
  refine ⟨factor, hfactor, rfl, ?_⟩
  cases hwhole : Double.isWhole step with
  | false => exact .inl rfl
  | true =>
      right
      apply (Double.isWhole_mul (Double.isWhole_ofInt hfactor) hwhole).resolve_left
      rw [hv]
      exact Bool.false_ne_true

/-! ## Strings -/

theorem gives_lettersWithin (minLength maxLetters : Option Nat) :
    Gives (∃ t, · = .string t) (lettersWithin minLength maxLetters) := by
  unfold lettersWithin
  dsimp only
  split
  · exact gives_error _
  · exact always_bind _ fun _ => always_bind _ fun t => gives_ok ⟨t, rfl⟩

theorem gives_fromPattern (pattern : String) :
    Gives (∃ t, · = .string t) (fromPattern pattern) := by
  unfold fromPattern
  split
  · exact gives_error _
  · exact always_bind _ fun cs => gives_ok ⟨String.ofList cs, rfl⟩

theorem always_angle (bound : Float) : (angle bound).Always (∀ t, · ≠ .string t) :=
  always_bind _ fun _ => always_pure (numberJson_ne_string _)

theorem gives_string {capability : Capability} (now : Moment)
    (h : capability.jsonType = .string) : Gives (∃ t, · = .string t) (value now capability) := by
  cases capability with
  | boolean | latitude | longitude | integer | number | float | seededId => cases h
  | alpha minLength maxLetters => exact gives_lettersWithin minLength maxLetters
  | fromRegex pattern => exact gives_fromPattern pattern
  | _ => exact gives_text _

theorem gives_no_string {capability : Capability} (now : Moment)
    (h : capability.jsonType ≠ .string) : Gives (∀ t, · ≠ .string t) (value now capability) := by
  cases capability with
  | latitude => exact gives_found (always_angle 90)
  | longitude => exact gives_found (always_angle 180)
  | float places =>
      exact gives_found (always_bind _ fun _ => always_pure (numberJson_ne_string _))
  | number min max step =>
      rintro s v hv t
      obtain ⟨_, _, rfl⟩ := gives_multiple min max step s v hv
      exact numberJson_ne_string _ t
  | integer => exact gives_found (always_bind _ fun _ => always_pure nofun)
  | boolean => exact gives_found (always_bind _ fun _ => always_pure nofun)
  | seededId min max seed key => exact gives_found (always_pure nofun)
  | _ => exact absurd rfl h

/-- What is drawn for a capability is a string just where the capability is one of strings. -/
theorem exists_string_iff {now : Moment} {capability : Capability} {s : Seed} {v : Json}
    (h : (value now capability s).1 = .ok v) :
    (∃ t, v = .string t) ↔ capability.jsonType = .string := by
  constructor
  · rintro ⟨t, rfl⟩
    by_contra hstring
    exact gives_no_string now hstring s _ h t rfl
  · intro hstring
    exact gives_string now hstring s v h

end Sample

end MockApi
