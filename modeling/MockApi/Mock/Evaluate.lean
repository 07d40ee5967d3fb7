import MockApi.Log
import MockApi.Mock.Expression
import MockApi.Mock.MockError
import MockApi.Mock.SeededId

/-! # Evaluating expressions

An expression is made into a value by a generator, which answers capabilities and chooses among
options, and by calls of producers. Evaluation stops at the first failure. What has been done until
then is kept, so a failed evaluation still moves the generator on.

An expression that cannot be evaluated stays as it is and is written as generator calls.
-/

namespace MockApi

/-- A source of made up values, and the producers beside it. The state is that of both: what a
producer gives may hang on all that was called before. -/
structure Generator (σ : Type) where
  generate : Capability → σ → Except MockError Json × σ
  /-- A choice among as many options as the number says. -/
  pick : Nat → σ → Nat × σ
  /-- A call of a producer; unless told otherwise, no producer remembers anything. -/
  produce : Producer → σ → Except String Json × σ := fun producer s => (producer.outcome, s)

/-- A computation that makes up values. -/
abbrev Making (σ α : Type) : Type := σ → Except MockError α × σ

namespace Making

variable {σ α β : Type}

/-- A value that needs no generator. -/
def pure (x : α) : Making σ α := fun s => (.ok x, s)

/-- A failure. -/
def fail (e : MockError) : Making σ α := fun s => (.error e, s)

/-- One computation after another, unless the first fails. -/
def bind (m : Making σ α) (f : α → Making σ β) : Making σ β := fun s =>
  match m s with
  | (.ok x, s) => f x s
  | (.error e, s) => (.error e, s)

instance : Monad (Making σ) where
  pure := pure
  bind := bind

/-- Runs a computation for each of `count` indices from `index` on. -/
def forIndices (f : Nat → Making σ α) : Nat → Nat → List α → Making σ (List α)
  | 0, _, done => pure done.reverse
  | count + 1, index, done => bind (f index) fun x => forIndices f count (index + 1) (x :: done)

end Making

namespace Expression

variable {σ : Type}

/-- The text of a value as a key: a string as it is, anything else as JSON. -/
def keyText : Json → String
  | .string s => s
  | other => other.compact

/-- The value of a capability at a place among array items. -/
def answer (g : Generator σ) (path : List Nat) : Capability → Making σ Json
  | .seededId min max seed key =>
    Making.pure (Json.nat (SeededId.id min max seed key (SeededId.position path)))
  | capability => g.generate capability

/-- The value of a generator call in the words of the user. -/
def answerCall (g : Generator σ) (text : String) : Making σ Json :=
  match Capability.ofCall? text with
  | some capability => g.generate capability
  | none => Making.fail (.unsupported text)

/-- The value that a producer gives. -/
def answerProducer (g : Generator σ) (p : Producer) : Making σ Json := fun s =>
  match g.produce p s with
  | (.ok value, s) => (.ok value, s)
  | (.error reason, s) => (.error (.producerFailed p.source reason), s)

mutual

/-- Makes up the value of an expression; `path` holds the indices of the array items around it,
outermost first. -/
def materialize (g : Generator σ) (path : List Nat) : Expression → Making σ Json
  | .literal value => Making.pure value
  | .call capability => answer g path capability
  | .generator text => answerCall g text
  | .custom producer => answerProducer g producer
  | .object entries =>
    Making.bind (materializeEntries g path entries []) fun members =>
      Making.pure (.object members)
  | .copies count item =>
    Making.bind (Making.forIndices (fun i => materialize g (path ++ [i]) item) count 0 [])
      fun items => Making.pure (.array items)
  | .choice options =>
    if options.isEmpty then Making.fail .emptyChoice
    else fun s =>
      let (index, s) := g.pick options.length s
      materializeAt g path options index s

/-- Makes up entries in order; a later entry of a key replaces the value of an earlier one. -/
def materializeEntries (g : Generator σ) (path : List Nat) :
    List (EntryKey Expression × Expression) → List (String × Json) →
      Making σ (List (String × Json))
  | [], done => Making.pure done
  | (.fixed name, value) :: rest, done =>
    Making.bind (materialize g path value) fun v =>
      materializeEntries g path rest (Entries.insert done name v)
  | (.generated key, value) :: rest, done =>
    Making.bind (materialize g path key) fun k =>
      Making.bind (materialize g path value) fun v =>
        materializeEntries g path rest (Entries.insert done (keyText k) v)

/-- Makes up the option with an index. -/
def materializeAt (g : Generator σ) (path : List Nat) : List Expression → Nat → Making σ Json
  | [], _ => Making.fail .emptyChoice
  | e :: _, 0 => materialize g path e
  | _ :: rest, index + 1 => materializeAt g path rest index

end

end Expression

/-- The outcome of an evaluation: a value, or the expression as it was. -/
inductive Evaluation where
  | static (value : Json)
  | dynamic (expression : Expression)

namespace Evaluation

/-- True when there is a value. -/
def isStatic : Evaluation → Bool
  | .static _ => true
  | .dynamic _ => false

/-- The text that goes into a mock module. -/
def source : Evaluation → String
  | .static value => value.pretty
  | .dynamic expression => expression.source

/-- True when the text needs the faker library. -/
def usesFaker : Evaluation → Bool
  | .static _ => false
  | .dynamic expression => expression.usesFaker

end Evaluation

namespace Expression

variable {σ : Type}

/-- Evaluates an expression; a failure is told beside the outcome. -/
def evaluate (g : Generator σ) (e : Expression) (s : σ) : Evaluation × Option MockError × σ :=
  match materialize g [] e s with
  | (.ok value, s) => (.static value, none, s)
  | (.error failure, s) => (.dynamic e, some failure, s)

end Expression

/-- The log lines of a failed evaluation. -/
def MockError.lines (e : MockError) : List LogLine :=
  [.fault e.message,
    .warn ("An error occurred while generating the static mock data, please note that " ++
      "external dependencies are not supported except for faker."),
    .warn "Falling back to the dynamic mock data generation instead."]

end MockApi
