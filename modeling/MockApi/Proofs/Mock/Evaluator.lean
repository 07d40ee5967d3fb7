import MockApi.Mock.Evaluator

/-! # The place of an evaluator

An evaluator leaves every item that it enters, also when something inside cannot be made up. So a
request ends at the place where it started, and what it does there is what evaluation with that
place at hand does. After any requests, an evaluator that started in no item is in none.
-/

namespace MockApi.Evaluator

variable {σ α β : Type}

theorem bind_located (m : List Nat → Making σ α) (f : α → List Nat → Making σ β) :
    Making.bind (located m) (fun x => located (f x)) =
      located fun path => Making.bind (m path) fun x => f x path := by
  funext ev
  unfold Making.bind located
  dsimp only
  rcases m ev.itemPath ev.generator with ⟨_ | _, _⟩ <;> rfl

theorem bind_located_pure (m : List Nat → Making σ α) (f : α → β) :
    Making.bind (located m) (fun x => Making.pure (f x)) =
      located fun path => Making.bind (m path) fun x => Making.pure (f x) :=
  bind_located m fun x _ => Making.pure (f x)

theorem inItem_located (index : Nat) (m : List Nat → Making σ α) :
    inItem index (located m) = located fun path => m (path ++ [index]) := by
  funext ev
  -- the index that was added last is the one that is dropped, whatever came of the item
  simp only [inItem, located, List.dropLast_concat]

theorem forIndices_located (f : Nat → List Nat → Making σ α) (count index : Nat) (done : List α) :
    Making.forIndices (fun i => located (f i)) count index done =
      located fun path => Making.forIndices (fun i => f i path) count index done := by
  induction count generalizing index done with
  | zero => simp only [Making.forIndices]; rfl
  | succ count ih =>
      simp only [Making.forIndices, ih]
      exact bind_located _ _

mutual

/-- An evaluator makes up an expression at its place and comes back to it. -/
theorem materialize_eq_located (g : Generator σ) : (e : Expression) →
    materialize g e = located fun path => Expression.materialize g path e
  | .literal _ => by simp only [materialize, Expression.materialize]; rfl
  | .call _ => by simp only [materialize, Expression.materialize]
  | .generator _ => by simp only [materialize, Expression.materialize]
  | .custom _ => by simp only [materialize, Expression.materialize]
  | .object entries => by
      simp only [materialize, Expression.materialize, materializeEntries_eq_located g entries]
      exact bind_located_pure _ _
  | .copies count item => by
      simp only [materialize, Expression.materialize, materialize_eq_located g item,
        inItem_located, forIndices_located]
      exact bind_located_pure _ _
  | .choice options => by
      simp only [materialize, Expression.materialize, materializeAt_eq_located g options]
      split <;> rfl

theorem materializeEntries_eq_located (g : Generator σ) :
    (entries : List (EntryKey Expression × Expression)) → (done : List (String × Json)) →
    materializeEntries g entries done =
      located fun path => Expression.materializeEntries g path entries done
  | [], _ => by simp only [materializeEntries, Expression.materializeEntries]; rfl
  | (.fixed _, value) :: rest, _ => by
      simp only [materializeEntries, Expression.materializeEntries, materialize_eq_located g value,
        materializeEntries_eq_located g rest]
      exact bind_located _ _
  | (.generated key, value) :: rest, _ => by
      simp only [materializeEntries, Expression.materializeEntries, materialize_eq_located g key,
        materialize_eq_located g value, materializeEntries_eq_located g rest, bind_located]

theorem materializeAt_eq_located (g : Generator σ) :
    (options : List Expression) → (index : Nat) →
    materializeAt g options index =
      located fun path => Expression.materializeAt g path options index
  | [], _ => by simp only [materializeAt, Expression.materializeAt]; rfl
  | e :: _, 0 => by simp only [materializeAt, Expression.materializeAt, materialize_eq_located g e]
  | _ :: rest, index + 1 => by
      simp only [materializeAt, Expression.materializeAt, materializeAt_eq_located g rest index]

end

/-- In no item, an evaluator evaluates as its generator does. -/
theorem evaluate_eq (g : Generator σ) (e : Expression) {ev : Evaluator σ} (h : ev.itemPath = []) :
    evaluate g e ev =
      let (outcome, failure, generator) := Expression.evaluate g e ev.generator
      (outcome, failure, { ev with generator }) := by
  simp only [evaluate, Expression.evaluate, materialize_eq_located, located, h]
  rcases Expression.materialize g [] e ev.generator with ⟨_ | _, _⟩ <;> rfl

theorem itemPath_materialize (g : Generator σ) (e : Expression) (ev : Evaluator σ) :
    (materialize g e ev).2.itemPath = ev.itemPath := by
  rw [materialize_eq_located]
  rfl

theorem itemPath_evaluate (g : Generator σ) (e : Expression) (ev : Evaluator σ) :
    (evaluate g e ev).2.2.itemPath = ev.itemPath := by
  have hpath := itemPath_materialize g e ev
  unfold evaluate
  split
  next h => rwa [h] at hpath
  next h => rwa [h] at hpath

theorem itemPath_serve (g : Generator σ) (ev : Evaluator σ) (request : Request) :
    (serve g ev request).itemPath = ev.itemPath := by
  cases request with
  | evaluate e => exact itemPath_evaluate g e ev
  | materialize e => exact itemPath_materialize g e ev

/-- After any requests, an evaluator is at the place where it started. -/
theorem itemPath_after (g : Generator σ) (requests : List Request) (ev : Evaluator σ) :
    (after g requests ev).itemPath = ev.itemPath := by
  induction requests generalizing ev with
  | nil => rfl
  | cons request rest ih => exact (ih _).trans (itemPath_serve g ev request)

end MockApi.Evaluator
