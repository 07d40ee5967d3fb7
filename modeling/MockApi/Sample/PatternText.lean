import MockApi.Pattern.Regular
import MockApi.Sample.Draw

/-! # Texts of a pattern

A text is drawn from what a pattern says between its anchors, where digits, word characters and
blanks are those of the first 128 code points. Repetition without an upper bound adds at most ten
rounds to its lower one.
-/

namespace MockApi.Sample

/-- Drops a dollar sign at the end, unless a backslash stands before it. -/
def dropEndAnchor (pattern : List Char) : List Char :=
  if pattern.getLast? = some '$' && pattern.dropLast.getLast? ≠ some '\\' then pattern.dropLast
  else pattern

/-- The pattern without a caret at its start and without an anchor at its end. -/
def stripAnchors : List Char → List Char
  | '^' :: rest => dropEndAnchor rest
  | pattern => dropEndAnchor pattern

/-- The class that a backslash with a letter stands for, among the first 128 code points. -/
def asciiClass? : Char → Option String
  | 'd' => some "[0-9]"
  | 'D' => some "[^0-9]"
  | 'w' => some "[0-9A-Za-z_]"
  | 'W' => some "[^0-9A-Za-z_]"
  | 's' => some "[\\t\\n\\v\\f\\r ]"
  | 'S' => some "[^\\t\\n\\v\\f\\r ]"
  | _ => none

/-- Writes out the classes that backslashes with letters stand for. -/
def asciiClasses : List Char → List Char
  | '\\' :: c :: rest =>
    match asciiClass? c with
    | some text => text.toList ++ asciiClasses rest
    | none => '\\' :: c :: asciiClasses rest
  | c :: rest => c :: asciiClasses rest
  | [] => []

/-- Rounds that repetition without an upper bound may add. -/
def extraRounds : Nat := 10

/-- One after another, as many texts as a count says. -/
def drawTimes (m : Draw (List Char)) (count : Nat) : Draw (List Char) := do
  return (← Draw.times m count).flatten

mutual

/-- A text that the pattern describes. -/
def draw : Pattern.Regular → Draw (List Char)
  | .empty | .place => return []
  | .member k => do return (k.nth? (← Draw.below k.size)).toList
  | .seq p q => do return (← draw p) ++ (← draw q)
  | .either ps => do drawAt ps (← Draw.below ps.length)
  | .repeated low high p => do
    drawTimes (draw p) (← Draw.nat low (high.getD (low + extraRounds)))

/-- A text of the alternative with an index. -/
def drawAt : List Pattern.Regular → Nat → Draw (List Char)
  | [], _ => return []
  | p :: _, 0 => draw p
  | _ :: rest, n + 1 => drawAt rest n

end

/-- The pattern from which texts are drawn. -/
def drawable? (pattern : String) : Option Pattern.Regular :=
  (Pattern.Regular.ofText? (asciiClasses (stripAnchors pattern.toList))).filter
    Pattern.Regular.isDrawable

end MockApi.Sample
