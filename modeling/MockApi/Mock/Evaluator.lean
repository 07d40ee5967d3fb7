import MockApi.Mock.Evaluate

/-! # The evaluator

An evaluator keeps its generator and the indices of the array items that it is in, and serves one
request after another. An item is entered before it is made up and left afterwards, whether it could
be made up or not.
-/

namespace MockApi

/-- The state of an evaluator: that of its generator, and the indices of the array items around the
expression at hand, outermost first. -/
structure Evaluator (σ : Type) where
  generator : σ
  itemPath : List Nat := []

/-- What an evaluator is asked for: an evaluation, which falls back to the expression, or just a
value. -/
inductive Request where
  | evaluate (expression : Expression)
  | materialize (expression : Expression)

namespace Evaluator

variable {σ α : Type}

/-- A computation that depends on the place and moves the generator. -/
def located (m : List Nat → Making σ α) : Making (Evaluator σ) α := fun ev =>
  let (outcome, generator) := m ev.itemPath ev.generator
  (outcome, { ev with generator })

/-- Runs a computation in an array item. -/
def inItem (index : Nat) (m : Making (Evaluator σ) α) : Making (Evaluator σ) α := fun ev =>
  let (outcome, ev) := m { ev with itemPath := ev.itemPath ++ [index] }
  (outcome, { ev with itemPath := ev.itemPath.dropLast })

mutual

/-- Makes up the value of an expression. -/
def materialize (g : Generator σ) : Expression → Making (Evaluator σ) Json
  | .literal value => Making.pure value
  | .call capability => located fun path => Expression.answer g path capability
  | .generator text => located fun _ => Expression.answerCall g text
  | .custom producer => located fun _ => Expression.answerProducer g producer
  | .object entries =>
    Making.bind (materializeEntries g entries []) fun members => Making.pure (.object members)
  | .copies count item =>
    Making.bind (Making.forIndices (fun i => inItem i (materialize g item)) count 0 [])
      fun items => Making.pure (.array items)
  | .choice options =>
    if options.isEmpty then Making.fail .emptyChoice
    else fun ev =>
      let (index, generator) := g.pick options.length ev.generator
      materializeAt g options index { ev with generator }

/-- Makes up entries in order; a later entry of a key replaces the value of an earlier one. -/
def materializeEntries (g : Generator σ) :
    List (EntryKey Expression × Expression) → List (String × Json) →
      Making (Evaluator σ) (List (String × Json))
  | [], done => Making.pure done
  | (.fixed name, value) :: rest, done =>
    Making.bind (materialize g value) fun v =>
      materializeEntries g rest (Entries.insert done name v)
  | (.generated key, value) :: rest, done =>
    Making.bind (materialize g key) fun k =>
      Making.bind (materialize g value) fun v =>
        materializeEntries g rest (Entries.insert done (Expression.keyText k) v)

/-- Makes up the option with an index. -/
def materializeAt (g : Generator σ) : List Expression → Nat → Making (Evaluator σ) Json
  | [], _ => Making.fail .emptyChoice
  | e :: _, 0 => materialize g e
  | _ :: rest, index + 1 => materializeAt g rest index

end

/-- Evaluates an expression; a failure is told beside the outcome. -/
def evaluate (g : Generator σ) (e : Expression) (ev : Evaluator σ) :
    Evaluation × Option MockError × Evaluator σ :=
  match materialize g e ev with
  | (.ok value, ev) => (.static value, none, ev)
  | (.error failure, ev) => (.dynamic e, some failure, ev)

/-- The evaluator after a request. -/
def serve (g : Generator σ) (ev : Evaluator σ) : Request → Evaluator σ
  | .evaluate e => (evaluate g e ev).2.2
  | .materialize e => (materialize g e ev).2

/-- The evaluator after requests in order. -/
def after (g : Generator σ) (requests : List Request) (ev : Evaluator σ) : Evaluator σ :=
  requests.foldl (serve g) ev

end Evaluator

end MockApi
