import MockApi.Proofs.Mock.Compile
import MockApi.Proofs.Mock.Yields

/-! # The types of capabilities

Every capability asks for a value of one type. Strings compile to capabilities of strings, except
where the key names a coordinate, and numbers to capabilities of numbers, so a generator that
answers with the right types gives values of the right types.
-/

namespace MockApi

/-- The type of the values that a capability is answered with. -/
def Capability.jsonType : Capability → SchemaType
  | .boolean => .boolean
  | .latitude | .longitude | .integer | .number .. | .float _ | .seededId .. => .number
  | _ => .string

namespace SchemaType

end SchemaType

namespace Capability

theorem jsonType_of_format {format : String} {pattern : Option String} {capability : Capability}
    (h : ofFormat? format pattern = some capability) : capability.jsonType = .string := by
  unfold ofFormat? at h
  split at h <;> first | cases h; rfl | cases h

theorem exists_of_lookUp {table : List (KeyPattern × Capability)} {key : String}
    {capability : Capability} (h : lookUp table key = some capability) :
    ∃ e ∈ table, e.2 = capability := by
  obtain ⟨e, he, rfl⟩ := Option.map_eq_some_iff.mp h
  exact ⟨e, List.mem_of_find?_eq_some he, rfl⟩

theorem jsonType_of_stringKey {key : String} {capability : Capability}
    (h : ofStringKey? key = some capability) :
    capability.jsonType = .string ∨ capability = .latitude ∨ capability = .longitude := by
  obtain ⟨e, he, rfl⟩ := exists_of_lookUp h
  revert e
  simp [stringTable, jsonType]

/-- What a key says about numbers: a discount, a range of whole numbers, or an id from one to a
thousand that follows from the key. -/
theorem cases_of_numberKey {year : Nat} {key : String} {capability : Capability}
    (h : ofNumberKey? year key = some capability) :
    capability = .float 1 ∨ (∃ min max, capability = between min max) ∨
      capability = .seededId 1 1000 defaultSeed key := by
  obtain ⟨e, he, rfl⟩ := exists_of_lookUp h
  revert e
  simp [numberTable, between]

theorem jsonType_of_numberKey {year : Nat} {key : String} {capability : Capability}
    (h : ofNumberKey? year key = some capability) : capability.jsonType = .number := by
  obtain rfl | ⟨min, max, rfl⟩ | rfl := cases_of_numberKey h <;> rfl

end Capability

/-- Neither the format nor a pattern decides what a string looks like, and its key names a
coordinate. -/
structure Keywords.NamesCoordinate (k : Keywords) (key : Option String) : Prop where
  format : (k.format.bind fun f => Capability.ofFormat? f k.pattern) = none
  pattern : k.pattern = none
  key : key.bind Capability.ofStringKey? = some .latitude ∨
    key.bind Capability.ofStringKey? = some .longitude

namespace Compiler

variable (c : Compiler)

theorem jsonType_lettersFor (minLength maxLength : Option Nat) :
    (lettersFor minLength maxLength).jsonType = .string := by
  unfold lettersFor
  split
  next => rfl
  next => split <;> rfl
  next => split <;> rfl
  next => rfl

theorem jsonType_stringCapability (k : Keywords) (key : Option String) :
    (c.stringCapability k key).1.jsonType = .string ∨
      (c.stringCapability k key).1.jsonType = .number ∧ k.NamesCoordinate key := by
  unfold stringCapability
  split
  next capability hformat =>
    obtain ⟨format, _, hformat⟩ := Option.bind_eq_some_iff.mp hformat
    exact Or.inl (Capability.jsonType_of_format hformat)
  next hformat =>
    split
    next => split <;> exact Or.inl rfl
    next hpattern =>
      split
      next capability hkey =>
        obtain ⟨name, _, hname⟩ := Option.bind_eq_some_iff.mp hkey
        rcases Capability.jsonType_of_stringKey hname with hstring | rfl | rfl
        · exact Or.inl hstring
        · exact Or.inr ⟨rfl, hformat, hpattern, Or.inl hkey⟩
        · exact Or.inr ⟨rfl, hformat, hpattern, Or.inr hkey⟩
      next => exact Or.inl (jsonType_lettersFor ..)

theorem jsonType_numberCapability (k : Keywords) (key : Option String) :
    (c.numberCapability k key).jsonType = .number := by
  unfold numberCapability
  cases hkey : key.bind (Capability.ofNumberKey? c.year) with
  | none => rfl
  | some capability =>
      obtain ⟨name, _, hname⟩ := Option.bind_eq_some_iff.mp hkey
      exact Capability.jsonType_of_numberKey hname

end Compiler

/-! ## Answers -/

namespace Expression.Yields

variable {σ : Type} {g : Generator σ}

end Expression.Yields

end MockApi
