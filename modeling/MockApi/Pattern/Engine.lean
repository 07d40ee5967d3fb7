/-! # Ways to read patterns

What compiling a schema needs to know about patterns: which texts are patterns, and in which texts a
pattern finds a match.
-/

namespace MockApi

/-- A way to read patterns: nothing for a text that is no pattern, else the test for texts in which
the pattern finds a match. -/
structure PatternEngine where
  test? : String → Option (String → Bool)

namespace PatternEngine

/-- True of the texts that are patterns. -/
def accepts (engine : PatternEngine) (pattern : String) : Bool := (engine.test? pattern).isSome

/-- True when a pattern finds a match in a text. -/
def finds (engine : PatternEngine) (pattern text : String) : Bool :=
  match engine.test? pattern with
  | some test => test text
  | none => false

end PatternEngine

end MockApi
