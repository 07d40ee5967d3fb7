import MockApi.Proofs.Entries
import MockApi.Proofs.Mock.Evaluator
import MockApi.Proofs.Mock.Yields

/-! # Expressions that ask nothing of the generator

A generator that writes down what it is asked shows which expressions need one. Where no part uses
the faker library, nothing is asked: what comes of the expression hangs on the memory of its
producers alone, and where these remember nothing it is one value or error. A literal expression is
moreover read off its tree.

Two evaluations are compared in lockstep, from states that are alike in some sense that every call
of a producer keeps.
-/

namespace MockApi

/-- What a generator is asked for: the value of a capability, or a choice among options. -/
inductive Question where
  | generate (capability : Capability)
  | pick (count : Nat)

namespace Generator

variable {σ μ : Type}

/-- The generator that also keeps the questions it is asked, in order. -/
def recorded (g : Generator σ) : Generator (σ × List Question) where
  generate capability s :=
    let (outcome, s') := g.generate capability s.1
    (outcome, s', s.2 ++ [.generate capability])
  pick count s :=
    let (index, s') := g.pick count s.1
    (index, s', s.2 ++ [.pick count])
  produce producer s :=
    let (outcome, s') := g.produce producer s.1
    (outcome, s', s.2)

/-- The generator beside producers that have a memory of their own. -/
def beside (call : Producer → μ → Except String Json × μ) (g : Generator σ) :
    Generator (σ × μ) where
  generate capability s :=
    let (outcome, s') := g.generate capability s.1
    (outcome, s', s.2)
  pick count s :=
    let (index, s') := g.pick count s.1
    (index, s', s.2)
  produce producer s :=
    let (outcome, memory) := call producer s.2
    (outcome, s.1, memory)

/-- No producer remembers anything: every call of one has its one outcome. -/
def Forgetful (g : Generator σ) : Prop := ∀ producer s, (g.produce producer s).1 = producer.outcome

end Generator

/-- The questions of an evaluator that makes up an expression. -/
def Evaluator.questions {σ : Type} (g : Generator σ) (e : Expression) (ev : Evaluator σ) :
    List Question :=
  (materialize g.recorded e ⟨(ev.generator, []), ev.itemPath⟩).2.generator.2

example {σ : Type} (g : Generator σ) (ev : Evaluator σ) :
    Evaluator.questions g (.call .boolean) ev = [.generate .boolean] := rfl

/-- From states that are alike, two steps give the same and lead to states that are alike. -/
def Lockstep {σ τ β : Type} (alike : σ → τ → Prop) (m : σ → β × σ) (m' : τ → β × τ) : Prop :=
  ∀ s s', alike s s' → (m s).1 = (m' s').1 ∧ alike (m s).2 (m' s').2

variable {σ τ α β : Type} {alike : σ → τ → Prop}

namespace Lockstep

theorem pure (x : α) : Lockstep alike (Making.pure x) (Making.pure x) := fun _ _ h => ⟨rfl, h⟩

theorem fail (e : MockError) :
    Lockstep alike (Making.fail e : Making σ α) (Making.fail e : Making τ α) :=
  fun _ _ h => ⟨rfl, h⟩

theorem bind {m : Making σ α} {m' : Making τ α} {f : α → Making σ β} {f' : α → Making τ β}
    (hm : Lockstep alike m m') (hf : ∀ x, Lockstep alike (f x) (f' x)) :
    Lockstep alike (Making.bind m f) (Making.bind m' f') := by
  intro s s' hs
  obtain ⟨hsame, halike⟩ := hm s s' hs
  unfold Making.bind
  generalize m s = made, m' s' = made' at hsame halike ⊢
  obtain ⟨outcome, t⟩ := made
  obtain ⟨_, t'⟩ := made'
  cases hsame
  cases outcome with
  | ok x => exact hf x t t' halike
  | error e => exact ⟨rfl, halike⟩

theorem forIndices {f : Nat → Making σ α} {f' : Nat → Making τ α}
    (hf : ∀ i, Lockstep alike (f i) (f' i)) (count index : Nat) (done : List α) :
    Lockstep alike (Making.forIndices f count index done)
      (Making.forIndices f' count index done) := by
  induction count generalizing index done with
  | zero => exact .pure done.reverse
  | succ count ih => exact .bind (hf index) fun x => ih (index + 1) (x :: done)

end Lockstep

namespace Expression

/-! ## Nothing of the faker library -/

variable {g : Generator σ} {g' : Generator τ}

theorem lockstep_answer {capability : Capability} (h : callUsesFaker capability = false)
    (path : List Nat) : Lockstep alike (answer g path capability) (answer g' path capability) := by
  cases capability with
  | seededId min max seed key => exact .pure _
  | _ => cases h

theorem lockstep_answerProducer {p : Producer} (h : Lockstep alike (g.produce p) (g'.produce p)) :
    Lockstep alike (answerProducer g p) (answerProducer g' p) := by
  intro s s' hs
  obtain ⟨hsame, halike⟩ := h s s' hs
  unfold answerProducer
  generalize g.produce p s = made, g'.produce p s' = made' at hsame halike ⊢
  obtain ⟨outcome, t⟩ := made
  obtain ⟨_, t'⟩ := made'
  cases hsame
  cases outcome <;> exact ⟨rfl, halike⟩

mutual

/-- Without the faker library, nothing but the producers is asked, also in every item of an
array. -/
theorem lockstep_materialize (hcalls : ∀ p, Lockstep alike (g.produce p) (g'.produce p)) :
    (e : Expression) → e.usesFaker = false → (path : List Nat) →
    Lockstep alike (materialize g path e) (materialize g' path e)
  | .literal value, _, _ => by
      simp only [materialize]
      exact .pure value
  | .call _, h, path => by
      simp only [materialize]
      exact lockstep_answer h path
  | .generator _, h, _ => by cases h
  | .custom producer, _, _ => by
      simp only [materialize]
      exact lockstep_answerProducer (hcalls producer)
  | .object entries, h, path => by
      simp only [materialize]
      exact .bind (lockstep_materializeEntries hcalls entries h path []) fun _ => .pure _
  | .copies count item, h, path => by
      simp only [materialize]
      have hitem := fun i => lockstep_materialize hcalls item h (path ++ [i])
      exact .bind (.forIndices hitem count 0 []) fun _ => .pure _
  | .choice _, h, _ => by cases h

theorem lockstep_materializeEntries (hcalls : ∀ p, Lockstep alike (g.produce p) (g'.produce p)) :
    (entries : List (EntryKey Expression × Expression)) → someUsesFaker entries = false →
    (path : List Nat) → (done : List (String × Json)) →
    Lockstep alike (materializeEntries g path entries done)
      (materializeEntries g' path entries done)
  | [], _, _, done => by
      simp only [materializeEntries]
      exact .pure done
  | (.fixed _, value) :: rest, h, path, _ => by
      obtain ⟨hvalue, hrest⟩ := Bool.or_eq_false_iff.mp h
      simp only [materializeEntries]
      exact .bind (lockstep_materialize hcalls value hvalue path) fun _ =>
        lockstep_materializeEntries hcalls rest hrest path _
  | (.generated key, value) :: rest, h, path, _ => by
      obtain ⟨h, hrest⟩ := Bool.or_eq_false_iff.mp h
      obtain ⟨hkey, hvalue⟩ := Bool.or_eq_false_iff.mp h
      simp only [materializeEntries]
      exact .bind (lockstep_materialize hcalls key hkey path) fun _ =>
        .bind (lockstep_materialize hcalls value hvalue path) fun _ =>
          lockstep_materializeEntries hcalls rest hrest path _

end

/-! ## Literal expressions -/

mutual

/-- The value that a tree reads as when nothing in it is made up. -/
def literalValue? : Expression → Option Json
  | .literal value => some value
  | .object entries =>
    (literalMembers? entries).map fun members => .object (Entries.lastValues members)
  | .copies count item => item.literalValue?.map fun value => .array (List.replicate count value)
  | .call _ | .generator _ | .custom _ | .choice _ => none

/-- The keys and values of entries in order, repeated keys included. -/
def literalMembers? : List (EntryKey Expression × Expression) → Option (List (String × Json))
  | [] => some []
  | (.fixed name, value) :: rest =>
    value.literalValue?.bind fun v => (literalMembers? rest).map ((name, v) :: ·)
  | (.generated _, _) :: _ => none

end

mutual

theorem isSome_literalValue? : (e : Expression) → e.literalValue?.isSome = e.isLiteral
  | .literal _ => rfl
  | .object entries => by
      rw [literalValue?, isLiteral, Option.isSome_map, isSome_literalMembers? entries]
  | .copies _ item => by
      rw [literalValue?, isLiteral, Option.isSome_map, isSome_literalValue? item]
  | .call _ | .generator _ | .custom _ | .choice _ => rfl

theorem isSome_literalMembers? : (entries : List (EntryKey Expression × Expression)) →
    (literalMembers? entries).isSome = areLiteral entries
  | [] => rfl
  | (.fixed _, value) :: rest => by
      rw [literalMembers?, areLiteral, ← isSome_literalValue? value, ← isSome_literalMembers? rest]
      cases value.literalValue? <;> simp
  | (.generated _, _) :: _ => rfl

end

mutual

theorem usesFaker_of_isLiteral : (e : Expression) → e.isLiteral = true → e.usesFaker = false
  | .literal _, _ => rfl
  | .object entries, h => someUsesFaker_of_areLiteral entries h
  | .copies _ item, h => usesFaker_of_isLiteral item h
  | .call _, h | .generator _, h | .custom _, h | .choice _, h => by cases h

theorem someUsesFaker_of_areLiteral : (entries : List (EntryKey Expression × Expression)) →
    areLiteral entries = true → someUsesFaker entries = false
  | [], _ => rfl
  | (.fixed _, value) :: rest, h => by
      obtain ⟨hvalue, hrest⟩ := Bool.and_eq_true_iff.mp h
      rw [someUsesFaker, usesFaker_of_isLiteral value hvalue,
        someUsesFaker_of_areLiteral rest hrest]
      rfl
  | (.generated _, _) :: _, h => by cases h

end

section

variable {σ : Type} (g : Generator σ)

mutual

theorem materialize_of_literalValue? : (e : Expression) → (path : List Nat) → {v : Json} →
    e.literalValue? = some v → materialize g path e = Making.pure v
  | .literal _, _, _, h => by
      obtain rfl := Option.some.inj h
      rw [materialize]
  | .object entries, path, _, h => by
      obtain ⟨members, hmembers, rfl⟩ := Option.map_eq_some_iff.mp h
      rw [materialize, materializeEntries_of_literalMembers? entries path [] hmembers,
        ← Entries.ofList_eq_lastValues]
      rfl
  | .copies count item, path, _, h => by
      obtain ⟨value, hvalue, rfl⟩ := Option.map_eq_some_iff.mp h
      have hitem := fun i => materialize_of_literalValue? item (path ++ [i]) hvalue
      rw [materialize, Making.forIndices_pure hitem, List.map_const', List.length_range']
      rfl
  | .call _, _, _, h | .generator _, _, _, h | .custom _, _, _, h | .choice _, _, _, h => by
      cases h

/-- Literal members are written one after another to those that are there. -/
theorem materializeEntries_of_literalMembers? :
    (entries : List (EntryKey Expression × Expression)) → (path : List Nat) →
    (done : List (String × Json)) → {members : List (String × Json)} →
    literalMembers? entries = some members →
    materializeEntries g path entries done =
      Making.pure (members.foldl (fun acc x => Entries.insert acc x.1 x.2) done)
  | [], _, _, _, h => by
      obtain rfl := Option.some.inj h
      rw [materializeEntries]
      rfl
  | (.fixed name, value) :: rest, path, done, _, h => by
      obtain ⟨v, hv, h⟩ := Option.bind_eq_some_iff.mp h
      obtain ⟨members, hmembers, rfl⟩ := Option.map_eq_some_iff.mp h
      rw [materializeEntries, materialize_of_literalValue? value path hv]
      exact materializeEntries_of_literalMembers? rest path (Entries.insert done name v) hmembers
  | (.generated _, _) :: _, _, _, _, h => by cases h

end

end

end Expression

namespace Evaluator

/-- Evaluators at one place keep step as their generators do. -/
theorem lockstep_materialize {g : Generator σ} {g' : Generator τ} {e : Expression} {s : σ} {s' : τ}
    (hcalls : ∀ p, Lockstep alike (g.produce p) (g'.produce p)) (h : e.usesFaker = false)
    (hs : alike s s') (path : List Nat) :
    (materialize g e ⟨s, path⟩).1 = (materialize g' e ⟨s', path⟩).1 ∧
      alike (materialize g e ⟨s, path⟩).2.generator (materialize g' e ⟨s', path⟩).2.generator := by
  rw [materialize_eq_located, materialize_eq_located]
  exact Expression.lockstep_materialize hcalls e h path s s' hs

theorem questions_eq_nil {e : Expression} (h : e.usesFaker = false) (g : Generator σ)
    (ev : Evaluator σ) : questions g e ev = [] := by
  have hcalls : ∀ p, Lockstep (fun (s : σ × List Question) s' => s.1 = s' ∧ s.2 = [])
      (g.recorded.produce p) (g.produce p) := by
    rintro p ⟨s, _⟩ _ ⟨rfl, rfl⟩
    exact ⟨rfl, rfl, rfl⟩
  exact (lockstep_materialize hcalls h ⟨rfl, rfl⟩ ev.itemPath).2.2

/-- The producers beside two generators have one memory, and the generators are in the given
states. -/
def OneMemory {μ : Type} (s : σ) (s' : τ) (x : σ × μ) (y : τ × μ) : Prop :=
  x.1 = s ∧ y.1 = s' ∧ x.2 = y.2

/-- Two generators beside the same producers, which have the same memory, are both left as they
are; the value or error and the memory after it are the same. -/
theorem exists_outcome_beside {μ : Type} {e : Expression} (h : e.usesFaker = false)
    (call : Producer → μ → Except String Json × μ) (g : Generator σ) (g' : Generator τ)
    (s : σ) (s' : τ) (memory : μ) (path : List Nat) :
    ∃ outcome memory',
      materialize (g.beside call) e ⟨(s, memory), path⟩ = (outcome, ⟨(s, memory'), path⟩) ∧
      materialize (g'.beside call) e ⟨(s', memory), path⟩ = (outcome, ⟨(s', memory'), path⟩) := by
  have hcalls : ∀ p, Lockstep (OneMemory s s') ((g.beside call).produce p)
      ((g'.beside call).produce p) := by
    rintro p ⟨_, _⟩ ⟨_, _⟩ ⟨rfl, rfl, rfl⟩
    exact ⟨rfl, rfl, rfl, rfl⟩
  have hstart : OneMemory s s' (s, memory) (s', memory) := ⟨rfl, rfl, rfl⟩
  obtain ⟨hsame, hleft, hleft', hmemory⟩ := lockstep_materialize hcalls h hstart path
  have hpath := itemPath_materialize (g.beside call) e ⟨(s, memory), path⟩
  have hpath' := itemPath_materialize (g'.beside call) e ⟨(s', memory), path⟩
  generalize materialize (g.beside call) e ⟨(s, memory), path⟩ = made,
    materialize (g'.beside call) e ⟨(s', memory), path⟩ = made' at *
  obtain ⟨outcome, ⟨⟨_, memory'⟩, _⟩⟩ := made
  obtain ⟨_, ⟨⟨_, _⟩, _⟩⟩ := made'
  dsimp only at hsame hleft hleft' hmemory hpath hpath'
  subst hsame hleft hleft' hmemory hpath hpath'
  exact ⟨outcome, memory', rfl, rfl⟩

theorem materialize_congr_of_forgetful {e : Expression} (h : e.usesFaker = false)
    {g : Generator σ} {g' : Generator τ} (hg : g.Forgetful) (hg' : g'.Forgetful) (s : σ) (s' : τ)
    (path : List Nat) : (materialize g e ⟨s, path⟩).1 = (materialize g' e ⟨s', path⟩).1 := by
  have hcalls : ∀ p, Lockstep (fun _ _ => True) (g.produce p) (g'.produce p) :=
    fun p s s' _ => ⟨(hg p s).trans (hg' p s').symm, trivial⟩
  exact (lockstep_materialize hcalls h trivial path).1

/-- Without the faker library, an expression asks no generator anything. What comes of it at a
place is one value or error with any two generators in any state, as long as the producers in it
find the same memory, or remember nothing; the generators stay in their states. A literal expression
is without the library, and gives the value that its tree reads as. -/
theorem materialize_asks_nothing (e : Expression) :
    (e.usesFaker = false →
      (∀ (σ : Type) (g : Generator σ) (ev : Evaluator σ), questions g e ev = []) ∧
      (∀ (σ τ μ : Type) (call : Producer → μ → Except String Json × μ) (g : Generator σ)
        (g' : Generator τ) (s : σ) (s' : τ) (memory : μ) (path : List Nat),
        ∃ outcome memory',
          materialize (g.beside call) e ⟨(s, memory), path⟩ = (outcome, ⟨(s, memory'), path⟩) ∧
          materialize (g'.beside call) e ⟨(s', memory), path⟩ =
            (outcome, ⟨(s', memory'), path⟩)) ∧
      ∀ (σ τ : Type) (g : Generator σ) (g' : Generator τ), g.Forgetful → g'.Forgetful →
        ∀ (s : σ) (s' : τ) (path : List Nat),
          (materialize g e ⟨s, path⟩).1 = (materialize g' e ⟨s', path⟩).1) ∧
    (e.isLiteral = true →
      e.usesFaker = false ∧
      ∃ v, e.literalValue? = some v ∧
        ∀ (σ : Type) (g : Generator σ) (ev : Evaluator σ), (materialize g e ev).1 = .ok v) := by
  refine ⟨fun hfaker => ⟨?_, ?_, ?_⟩, fun hliteral => ⟨e.usesFaker_of_isLiteral hliteral, ?_⟩⟩
  · exact fun σ g ev => questions_eq_nil hfaker g ev
  · exact fun σ τ μ call g g' s s' memory path =>
      exists_outcome_beside hfaker call g g' s s' memory path
  · exact fun σ τ g g' hg hg' s s' path => materialize_congr_of_forgetful hfaker hg hg' s s' path
  · rw [← e.isSome_literalValue?, Option.isSome_iff_exists] at hliteral
    obtain ⟨v, hv⟩ := hliteral
    refine ⟨v, hv, fun σ g ev => ?_⟩
    rw [materialize_eq_located, located, e.materialize_of_literalValue? g ev.itemPath hv]
    rfl

/-- Two seats that each write their number twice: the later one counts, at the first place. -/
def seats : Expression :=
  .copies 2 (.object [(.fixed "id", .literal (.nat 1)), (.fixed "row", .copies 0 .null),
    (.fixed "id", .literal (.nat 2))])

/-- Two tickets from a producer that counts on. -/
def tickets : Expression := .copies 2 (.custom ⟨"() => n++", .ok (.nat 0)⟩)

/-- Producers that give the number they remember, and remember the next one. -/
def countOn : Producer → Nat → Except String Json × Nat := fun _ n => (.ok (.nat n), n + 1)

theorem materialize_asks_nothing_seats :
    seats.usesFaker = false ∧ seats.isLiteral = true ∧
    (∀ (σ : Type) (g : Generator σ) (ev : Evaluator σ), questions g seats ev = []) ∧
    (∀ (σ : Type) (g : Generator σ) (ev : Evaluator σ),
      (materialize g seats ev).1 =
        .ok (.array [.object [("id", .nat 2), ("row", .array [])],
          .object [("id", .nat 2), ("row", .array [])]])) ∧
    tickets.usesFaker = false ∧
    (∀ (σ : Type) (g : Generator σ) (s : σ),
      materialize (g.beside countOn) tickets ⟨(s, 5), []⟩ =
        (.ok (.array [.nat 5, .nat 6]), ⟨(s, 7), []⟩)) ∧
    ∀ (σ : Type) (g : Generator σ), g.Forgetful → ∀ s : σ,
      (materialize g tickets ⟨s, []⟩).1 = .ok (.array [.nat 0, .nat 0]) := by
  -- with each of the others is compared one generator that never has an answer
  let mute : Generator Unit := ⟨fun _ s => (.error .emptyChoice, s), fun _ s => (0, s),
    fun producer s => (producer.outcome, s)⟩
  obtain ⟨hasks, hreads⟩ := materialize_asks_nothing seats
  obtain ⟨hfaker, v, hv, hvalue⟩ := hreads rfl
  obtain rfl := Option.some.inj hv
  obtain ⟨-, hmemory, hforgetful⟩ := (materialize_asks_nothing tickets).1 rfl
  refine ⟨hfaker, rfl, (hasks hfaker).1, hvalue, rfl, fun σ g s => ?_, fun σ g hg s => ?_⟩
  · obtain ⟨outcome, memory, hgiven, hmute⟩ := hmemory σ Unit Nat countOn g mute s () 5 []
    rw [hgiven]
    cases hmute
    rfl
  · exact hforgetful σ Unit g mute hg (fun _ _ => rfl) s () []

end Evaluator

end MockApi
