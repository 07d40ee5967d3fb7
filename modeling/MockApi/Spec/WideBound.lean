import MockApi.Text.Blank
import MockApi.Text.Digit
import MockApi.Text.Search

/-! # Wide bound literals

Documents write bounds that no tool reads exactly, such as `maximum: 9223372036854776000`. Before a
document is read, a bound of sixteen digits or more at the start of a line is replaced by the
largest or the smallest 32 bit integer, according to its sign. Nothing else in the text changes.
-/

namespace MockApi.Spec.WideBound

/-- The keywords whose values are looked at. -/
def keywords : List (List Char) :=
  ["minimum".toList, "maximum".toList, "exclusiveMinimum".toList, "exclusiveMaximum".toList]

/-- The least count of digits of a wide literal. -/
def digitCount : Nat := 16

/-- What takes the place of a wide literal. -/
def replacement (negative : Bool) : List Char :=
  if negative then "-2147483648".toList else "2147483647".toList

/-- The sign of a wide literal at the front of a text, and how many characters it has. -/
def literal? (cs : List Char) : Option (Bool × Nat) :=
  let (negative, body) := match cs with
    | '-' :: rest => (true, rest)
    | _ => (false, cs)
  let count := (body.takeWhile Text.isAnyDigit).length
  if count < digitCount then none else some (negative, if negative then count + 1 else count)

/-- What follows the first of the words that the text starts with. -/
def afterKeyword? (cs : List Char) : Option (List Char) :=
  keywords.findSome? fun word => Text.after? word cs

/-- At the start of a line: the characters up to a wide literal, its sign and its length. Blanks and
line breaks may stand before the keyword and after its colon. -/
def bound? (cs : List Char) : Option (List Char × Bool × Nat) := do
  match ← afterKeyword? (cs.dropWhile Text.isBlank) with
  | ':' :: rest =>
    let value := rest.dropWhile Text.isBlank
    let (negative, count) ← literal? value
    return (cs.take (cs.length - value.length), negative, count)
  | _ => none

/-- A text with its wide bounds replaced. `skip` counts the characters of a bound that has been
written already. -/
def replaceFrom : Bool → Nat → List Char → List Char
  | _, _, [] => []
  | _, skip + 1, _ :: rest => replaceFrom false skip rest
  | atLineStart, 0, c :: rest =>
    match if atLineStart then bound? (c :: rest) else none with
    | some (lead, negative, count) =>
      lead ++ replacement negative ++ replaceFrom false (lead.length + count - 1) rest
    | none => c :: replaceFrom (c == '\n') 0 rest

/-- Replaces every wide bound of a text. -/
def replaceAll (s : String) : String := String.ofList (replaceFrom true 0 s.toList)

end MockApi.Spec.WideBound
