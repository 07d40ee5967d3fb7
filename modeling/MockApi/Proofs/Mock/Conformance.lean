import MockApi.Proofs.Mock.Steps
import MockApi.Proofs.Mock.Typed
import MockApi.Proofs.Reference.Closed
import MockApi.Proofs.Schema.WellFormed

/-! # Made up values conform to their schemas

A value conforms to an expanded schema when it is null at a circular marker, a member of an
enumeration, a value for one of the alternatives, or else a value of the type with its parts
conforming in turn. Compiling a schema without examples and rules and evaluating the outcome gives
nothing else, whatever the generator is, as long as it answers each capability with a value of the
right kind.
-/

namespace MockApi

/-! ## Conformance -/

namespace Schema

/-- Whether the node admits members besides its declared properties. -/
def admitsExtra (s : Schema) : Bool :=
  match s.additional with
  | none => false
  | some (.flag allowed) => allowed
  | some (.schema _) => true

/-- One member of a new name where the node admits it, else none. Its value is a text unless a
schema describes it. -/
structure ExtraMembers (s : Schema) (extra : List (String × Json)) : Prop where
  length : extra.length = if s.admitsExtra then 1 else 0
  fresh : ∀ m ∈ extra, m.1 ∉ s.propertyNames
  text : ∀ m ∈ extra, described s.additional = [] → ∃ t, m.2 = .string t

end Schema

namespace Schema.ExtraMembers

variable {s : Schema}

protected theorem nil (h : s.admitsExtra = false) : s.ExtraMembers [] where
  length := by simp [h]
  fresh := by simp
  text := by simp

protected theorem singleton {m : String × Json} (h : s.admitsExtra = true)
    (hfresh : m.1 ∉ s.propertyNames)
    (htext : described s.additional = [] → ∃ t, m.2 = .string t) : s.ExtraMembers [m] where
  length := by simp [h]
  fresh := List.forall_mem_singleton.mpr hfresh
  text := List.forall_mem_singleton.mpr htext

theorem nodup_append {extra : List (String × Json)}
    (h : s.ExtraMembers extra) (hnames : s.propertyNames.Nodup) :
    (s.propertyNames ++ extra.map Prod.fst).Nodup := by
  refine List.nodup_append.mpr ⟨hnames, ?_, ?_⟩
  · have hlength := h.length
    split at hlength
    next =>
      obtain ⟨m, rfl⟩ := List.length_eq_one_iff.mp hlength
      simp
    next =>
      obtain rfl := List.length_eq_zero_iff.mp hlength
      simp
  · intro name hname other hother heq
    obtain ⟨m, hm, rfl⟩ := List.mem_map.mp hother
    exact h.fresh m hm (heq ▸ hname)

end Schema.ExtraMembers

open Schema

section Evaluation

open Expression

variable {σ : Type} {g : Generator σ}

/-- What is asked of a schema so that its values conform: it is expanded and holds no examples, and
the names of properties differ among themselves and from the words that the generator makes up. -/
structure Mockable (g : Generator σ) (s : Schema) : Prop where
  closed : s.Closed
  sample : ∀ t, s.Sees t → t.keywords.exampleValue = none
  names : s.WellFormed
  words : ∀ t, s.Sees t → ∀ state text, (g.generate .words state).1 = .ok (.string text) →
    text ∉ t.propertyNames

theorem Mockable.child {s t : Schema} (h : Mockable g s) (hs : s.circular = false)
    (ht : t ∈ s.children) : Mockable g t where
  closed := h.closed.children hs t ht
  sample u hu := h.sample u (.step hs ht hu)
  names := (wellFormed_iff.mp h.names).2 t ht
  words u hu := h.words u (.step hs ht hu)

variable {c : Compiler} {again : Schema → Compiler.Site → Compiled}

theorem Mockable.undecided {s : Schema} {key : Option String} {insideArray : Bool}
    (h : Mockable g s) (hrules : c.context.rules = []) (hs : s.circular = false) :
    c.Undecided s ⟨none, key, insideArray⟩ where
  marker := by simp [isMarker, h.closed.reference_eq_none, hs]
  rule := by
    cases key with
    | none => rfl
    | some name => simp [Compiler.rule?, hrules, Entries.find?]
  sample := by simp [Compiler.example?, h.sample s (.refl s)]

end Evaluation

/-! ## A component that refers to itself -/

namespace Users

/-- A body that is described elsewhere. -/
def body : Schema where
  reference := some "#/components/schemas/User"

/-- A compiler for the endpoint of users. -/
def compiler : Compiler where
  context := {
    path := "/users"
    method := .get
    arrayLength := 2
    useExample := true
    dynamic := false
    rules := [] }
  engine := ⟨fun _ => none⟩
  year := 2024

/-- A generator that counts its answers. -/
def generator : Generator Nat where
  generate capability n :=
    (.ok (match capability.jsonType with
      | .boolean => .bool true
      | .number => Json.nat n
      | _ => .string "text"), n + 1)
  pick length n := (n % length, n + 1)

end Users

end MockApi
