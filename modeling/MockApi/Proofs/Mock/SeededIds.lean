import MockApi.Proofs.Entries
import MockApi.Proofs.Mock.Evaluator
import MockApi.Proofs.Mock.Yields

/-! # Seeded ids do not depend on the past

Two evaluators that have served different requests, with different generators, make up different
values for one expression. Where it makes no choice and no keys, the values still have one shape,
that of the expression, and the same seeded ids in it. An id follows from its arguments and from the
indices of the array items around it.
-/

namespace MockApi

namespace Expression

mutual

/-- True when the expression makes no choice and no keys. -/
def hasFixedShape : Expression → Bool
  | .literal _ | .call _ | .generator _ | .custom _ => true
  | .object entries => haveFixedShape entries
  | .copies _ item => item.hasFixedShape
  | .choice _ => false

/-- True when all keys are fixed and no value makes a choice or keys. -/
def haveFixedShape : List (EntryKey Expression × Expression) → Bool
  | [] => true
  | (.fixed _, value) :: rest => value.hasFixedShape && haveFixedShape rest
  | (.generated _, _) :: _ => false

end

/-- True of the calls that are answered by the generator or by the user. -/
def isMadeUp : Expression → Bool
  | .call (.seededId ..) => false
  | .call _ | .generator _ | .custom _ => true
  | .literal _ | .object _ | .copies .. | .choice _ => false

/-- The entries with fixed keys. -/
def fixedEntries (entries : List (EntryKey Expression × Expression)) :
    List (String × Expression) :=
  entries.filterMap fun entry =>
    match entry.1 with
    | .fixed name => some (name, entry.2)
    | .generated _ => none

/-- The expressions under the fixed keys of an object, in the order of its members. The last one of
a key counts. -/
def declared (entries : List (EntryKey Expression × Expression)) : Entries Expression :=
  Entries.ofList (fixedEntries entries)

/-- Two values of an expression at a place, which have one shape down to the calls in it, the same
literals, and at each seeded id the id that follows from its arguments and its place. -/
inductive Agrees : List Nat → Expression → Json → Json → Prop
  | literal (path : List Nat) (v : Json) : Agrees path (.literal v) v v
  | seededId (path : List Nat) (min max seed : UInt64) (key : String) :
      Agrees path (.call (.seededId min max seed key))
        (Json.nat (SeededId.id min max seed key (SeededId.position path)))
        (Json.nat (SeededId.id min max seed key (SeededId.position path)))
  | madeUp {path : List Nat} {e : Expression} (h : e.isMadeUp = true) (v v' : Json) :
      Agrees path e v v'
  | object {path : List Nat} {entries : List (EntryKey Expression × Expression)}
      {members members' : Entries Json} (hkeys : members.keys = (declared entries).keys)
      (hkeys' : members'.keys = (declared entries).keys)
      (h : ∀ name e v v', (declared entries).find? name = some e → members.find? name = some v →
        members'.find? name = some v' → Agrees path e v v') :
      Agrees path (.object entries) (.object members) (.object members')
  | copies {path : List Nat} {count : Nat} {item : Expression} {items items' : List Json}
      (hlength : items.length = count) (hlength' : items'.length = count)
      (h : ∀ i v v', items[i]? = some v → items'[i]? = some v' → Agrees (path ++ [i]) item v v') :
      Agrees path (.copies count item) (.array items) (.array items')

theorem exists_seededId {capability : Capability} (h : (call capability).isMadeUp = false) :
    ∃ min max seed key, capability = .seededId min max seed key := by
  cases capability with
  | seededId min max seed key => exact ⟨min, max, seed, key, rfl⟩
  | _ => cases h

theorem mem_of_declared {entries : List (EntryKey Expression × Expression)} {name : String}
    {e : Expression} (h : (declared entries).find? name = some e) : (.fixed name, e) ∈ entries := by
  have hmem := Entries.mem_of_mem_ofList (Entries.mem_of_find?_eq_some h)
  obtain ⟨⟨key, value⟩, hentry, hsome⟩ := List.mem_filterMap.mp hmem
  cases key with
  | fixed other =>
      obtain ⟨rfl, rfl⟩ := Prod.mk.inj (Option.some.inj hsome)
      exact hentry
  | generated _ => cases hsome

theorem sizeOf_lt_of_declared {entries : List (EntryKey Expression × Expression)} {name : String}
    {e : Expression} (h : (declared entries).find? name = some e) :
    sizeOf e < sizeOf entries := by
  have hlt := List.sizeOf_lt_of_mem (mem_of_declared h)
  rw [Prod.mk.sizeOf_spec] at hlt
  omega

theorem hasFixedShape_of_mem {entries : List (EntryKey Expression × Expression)}
    {entry : EntryKey Expression × Expression} (h : haveFixedShape entries = true)
    (hentry : entry ∈ entries) : entry.2.hasFixedShape = true := by
  induction entries with
  | nil => cases hentry
  | cons first rest ih =>
      rcases first with ⟨_ | _, value⟩
      · rw [haveFixedShape, Bool.and_eq_true] at h
        rcases List.mem_cons.mp hentry with rfl | hentry
        · exact h.1
        · exact ih h.2 hentry
      · simp [haveFixedShape] at h

variable {σ τ : Type} {g : Generator σ} {path : List Nat}

theorem YieldsAt.of_seededId {min max seed : UInt64} {key : String} {v : Json}
    (h : YieldsAt g path (.call (.seededId min max seed key)) v) :
    v = Json.nat (SeededId.id min max seed key (SeededId.position path)) := by
  obtain ⟨s, h⟩ := h
  rw [materialize] at h
  exact (Except.ok.inj h).symm

theorem alike_of_materializeEntries_eq_ok {entries : List (EntryKey Expression × Expression)}
    {before : Entries Expression} {done members : Entries Json} {s : σ}
    (hfixed : haveFixedShape entries = true) (hbefore : before.Alike (YieldsAt g path) done)
    (h : (materializeEntries g path entries done s).1 = .ok members) :
    Entries.Alike (YieldsAt g path)
      ((fixedEntries entries).foldl (fun acc x => Entries.insert acc x.1 x.2) before) members := by
  induction entries generalizing before done s with
  | nil =>
      rw [materializeEntries] at h
      obtain rfl := Except.ok.inj h
      exact hbefore
  | cons entry rest ih =>
      rcases entry with ⟨name | _, value⟩
      · rw [haveFixedShape, Bool.and_eq_true] at hfixed
        rw [materializeEntries] at h
        obtain ⟨v, s', hv, h⟩ := Making.exists_of_bind_eq_ok h
        exact ih hfixed.2 (hbefore.insert name ⟨s, by rw [hv]⟩) h
      · simp [haveFixedShape] at hfixed

theorem YieldsAt.of_object {entries : List (EntryKey Expression × Expression)} {v : Json}
    (hfixed : haveFixedShape entries = true) (h : YieldsAt g path (.object entries) v) :
    ∃ members, v = .object members ∧ (declared entries).Alike (YieldsAt g path) members := by
  obtain ⟨s, h⟩ := h
  rw [materialize] at h
  obtain ⟨members, s', hmembers, h⟩ := Making.exists_of_bind_eq_ok h
  exact ⟨members, (Except.ok.inj h).symm,
    alike_of_materializeEntries_eq_ok hfixed .nil (by rw [hmembers])⟩

/-- Two values that an expression yields at one place agree, whatever generators they come from. -/
theorem agrees_of_yieldsAt {g' : Generator τ} (e : Expression) {path : List Nat} {v v' : Json}
    (hfixed : e.hasFixedShape = true) (h : YieldsAt g path e v) (h' : YieldsAt g' path e v') :
    Agrees path e v v' := by
  -- only an item is at another place than the expression around it, and at the same in both runs
  match e with
  | .literal x =>
      obtain rfl := h.of_literal
      obtain rfl := h'.of_literal
      exact .literal path _
  | .call capability =>
      cases hmade : (call capability).isMadeUp with
      | true => exact .madeUp hmade v v'
      | false =>
          obtain ⟨min, max, seed, key, rfl⟩ := exists_seededId hmade
          obtain rfl := h.of_seededId
          obtain rfl := h'.of_seededId
          exact .seededId path min max seed key
  | .generator _ => exact .madeUp rfl v v'
  | .custom _ => exact .madeUp rfl v v'
  | .object entries =>
      rw [hasFixedShape] at hfixed
      obtain ⟨members, rfl, hmembers⟩ := h.of_object hfixed
      obtain ⟨members', rfl, hmembers'⟩ := h'.of_object hfixed
      refine .object hmembers.keys hmembers'.keys fun name e x x' he hx hx' => ?_
      have hlt := sizeOf_lt_of_declared he
      exact agrees_of_yieldsAt e (hasFixedShape_of_mem hfixed (mem_of_declared he))
        (hmembers.values name e x he hx) (hmembers'.values name e x' he hx')
  | .copies count item =>
      rw [hasFixedShape] at hfixed
      obtain ⟨items, rfl, hlength, hitems⟩ := h.of_copies
      obtain ⟨items', rfl, hlength', hitems'⟩ := h'.of_copies
      exact .copies hlength hlength' fun i x x' hx hx' =>
        agrees_of_yieldsAt item hfixed (hitems i x hx) (hitems' i x' hx')
  | .choice _ => simp [hasFixedShape] at hfixed
termination_by sizeOf e

end Expression

namespace Evaluator

open Expression

theorem yieldsAt_of_materialize_after {σ : Type} {g : Generator σ} {s : σ} {history : List Request}
    {e : Expression} {v : Json}
    (h : (materialize g e (after g history { generator := s })).1 = .ok v) : YieldsAt g [] e v := by
  have hpath : (after g history { generator := s }).itemPath = [] := itemPath_after g history _
  rw [materialize_eq_located, located, hpath] at h
  exact ⟨_, h⟩

/-- Two evaluators, whatever their generators and whatever they have served, make up values of one
shape for an expression without choices and without keys that are made up, with the same seeded
ids in it. -/
theorem agrees_of_materialize_after {σ τ : Type} (g : Generator σ) (g' : Generator τ) (s : σ)
    (s' : τ) (history history' : List Request) {e : Expression} (hfixed : e.hasFixedShape = true)
    {v v' : Json} (h : (materialize g e (after g history { generator := s })).1 = .ok v)
    (h' : (materialize g' e (after g' history' { generator := s' })).1 = .ok v') :
    Agrees [] e v v' :=
  agrees_of_yieldsAt e hfixed (yieldsAt_of_materialize_after h) (yieldsAt_of_materialize_after h')

/-- A generator that answers everything with one value. -/
def constantly (v : Json) : Generator Unit where
  generate _ s := (.ok v, s)
  pick _ s := (0, s)

/-- A generator that answers with the number of answers before. -/
def counting : Generator Nat where
  generate _ n := (.ok (Json.nat n), n + 1)
  pick _ n := (0, n)

/-- Two users, each with an id and a name. -/
def twoUsers : Expression :=
  .copies 2 (.object [(.fixed "id", .call (.seededId 1 1000 123 "id")),
    (.fixed "name", .call .fullName)])

/-- The ids of users agree after a failure inside nested items and after nothing. -/
theorem agrees_of_materialize_after_twoUsers :
    let failing : Producer := ⟨"() => user", .error "user is not defined"⟩
    let history : List Request :=
      [.materialize (.copies 2 (.copies 3 (.custom failing))), .evaluate (.call .boolean)]
    ∃ v v',
      (materialize (constantly (.string "Ann")) twoUsers
        (after (constantly (.string "Ann")) history { generator := () })).1 = .ok v ∧
      (materialize counting twoUsers (after counting [] { generator := 0 })).1 = .ok v' ∧
      Agrees [] twoUsers v v' :=
  ⟨_, _, rfl, rfl,
    agrees_of_materialize_after (constantly (.string "Ann")) counting () 0 _ [] rfl rfl rfl⟩

end Evaluator

end MockApi
