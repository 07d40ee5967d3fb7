import MockApi.Number.Power

/-! # Drawing at random

A draw takes a seed and leaves the next one. Every draw from a range is the remainder of two random
words, so it lies in the range whatever the seed is.
-/

namespace MockApi.Sample

/-- The state from which random words follow. -/
structure Seed where
  state : UInt64
deriving DecidableEq, Repr

/-- A random word: the state moves by a fixed odd distance, and its bits are mixed. -/
def Seed.word (s : Seed) : UInt64 × Seed :=
  let state := s.state + 0x9E3779B97F4A7C15
  let a := (state ^^^ (state >>> 30)) * 0xBF58476D1CE4E5B9
  let b := (a ^^^ (a >>> 27)) * 0x94D049BB133111EB
  (b ^^^ (b >>> 31), ⟨state⟩)

/-- A computation that draws at random. -/
abbrev Draw (α : Type) : Type := StateM Seed α

namespace Draw

/-- A random word. -/
def word : Draw UInt64 := fun s => s.word

/-- A number below a bound, which is positive. -/
def below (bound : Nat) : Draw Nat := do
  let high ← word
  let low ← word
  return (high.toNat * twoTo 64 + low.toNat) % bound

/-- A number from `low` to `high`, or `low` when the range is empty. -/
def nat (low high : Nat) : Draw Nat := do
  return low + (← below (high - low + 1))

/-- An integer from `low` to `high`, or `low` when the range is empty. -/
def int (low high : Int) : Draw Int := do
  return low + (← below ((high - low).toNat + 1))

/-- A double from 0 to below 1, in steps of the unit in the last place below 1. -/
def unit : Draw Float := do
  return Float.ofNat ((← word).toNat / twoTo 11) / Float.ofNat (twoTo 53)

/-- One of some options, or the one given when there are none. -/
def oneOf {α : Type} (default : α) (options : List α) : Draw α := do
  return (options[← below options.length]?).getD default

/-- As many draws as a count says, in order. -/
def times {α : Type} (m : Draw α) : Nat → Draw (List α)
  | 0 => return []
  | n + 1 => do
    let x ← m
    return x :: (← times m n)

/-- A text of a number of characters from some. -/
def text (alphabet : List Char) (length : Nat) : Draw String := do
  return String.ofList (← times (oneOf ' ' alphabet) length)

end Draw
end MockApi.Sample
