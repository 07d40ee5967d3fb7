import MockApi.Pattern.Escape

/-! # Patterns to search for

A pattern describes places of a text: characters in a row, choices, repetitions, captured groups and
references to them, looks to either side, and parts that do not take back what they matched.
-/

namespace MockApi.Pattern

/-- A pattern to search for. -/
inductive SearchPattern where
  | empty
  /-- One character of a class. -/
  | member (k : CharClass)
  | position (p : Position)
  | seq (first second : SearchPattern)
  /-- The first alternative is preferred. -/
  | either (first second : SearchPattern)
  | capture (group : Nat) (p : SearchPattern)
  /-- The text that a group captured. -/
  | same (group : Nat)
  /-- Between `low` and `high` times, as often as possible when greedy. -/
  | repeated (low : Nat) (high : Option Nat) (greedy : Bool) (p : SearchPattern)
  /-- What follows, or what stands before, matches or does not match. -/
  | look (ahead holds : Bool) (p : SearchPattern)
  /-- Only the preferred match counts. -/
  | committed (p : SearchPattern)
  /-- The reported match starts here. -/
  | restart
  /-- The place where the search started. -/
  | searchStart
  /-- True once a group has captured. -/
  | captured (group : Nat)
  /-- A match of the condition decides between two patterns. -/
  | branch (condition yes no : SearchPattern)
deriving DecidableEq

namespace SearchPattern

/-- True of what may be repeated: not of places, looks and nothing. -/
def isRepeatable : SearchPattern → Bool
  | .empty | .position _ | .look _ _ _ => false
  | _ => true

/-- The number of characters that every match takes, where it is the same for all. -/
def width? : SearchPattern → Option Nat
  | .empty | .position _ | .look _ _ _ | .restart | .searchStart | .captured _ => some 0
  | .member _ => some 1
  | .seq p q => do return (← p.width?) + (← q.width?)
  | .either p q => do
    let n ← p.width?
    if q.width? = some n then some n else none
  | .capture _ p | .committed p => p.width?
  | .same _ => none
  | .repeated low high _ p => if high = some low then p.width?.map (low * ·) else none
  | .branch c p q => do
    let n := (← c.width?) + (← p.width?)
    if q.width? = some n then some n else none

/-- The alternatives at the top of a pattern. -/
def alternatives : SearchPattern → List SearchPattern
  | .either p q => p :: q.alternatives
  | p => [p]

/-- True of what can be looked for backwards: every alternative takes a fixed number of
characters. -/
def hasFixedWidths (p : SearchPattern) : Bool := p.alternatives.all fun q => q.width?.isSome

/-- The memory that a class takes in a prepared pattern. -/
def classCost (k : CharClass) : Nat :=
  if k.isAscii then 32 + 8 * k.ranges.length else 300 + 60 * k.ranges.length

/-- The memory that a prepared pattern takes, where repetition copies what it repeats. -/
def cost : SearchPattern → Nat
  | .member k => classCost k
  | .seq p q => p.cost + q.cost
  | .either p q => 32 + p.cost + q.cost
  | .capture _ p => 64 + p.cost
  | .repeated low high _ p => (high.getD (low + 1)) * (p.cost + if high = some low then 0 else 32)
  | .look _ _ p | .committed p => p.cost
  | .branch c p q => c.cost + p.cost + q.cost
  | _ => 32

/-- Memory that a prepared pattern may take. -/
def costLimit : Nat := 10 * 1024 * 1024

end SearchPattern
end MockApi.Pattern
