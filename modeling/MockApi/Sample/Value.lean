import MockApi.Mock.Evaluate
import MockApi.Sample.Calendar
import MockApi.Sample.PatternText
import MockApi.Sample.Words

/-! # Values at random

The generator that answers capabilities by drawing at random. Its state is a seed, so the same seed
gives the same values; the current time comes from outside. Only numbers without a multiple in their
range, letters beyond the limit and patterns of which no text can be drawn fail.
-/

namespace MockApi.Sample

/-- The largest integer up to which all integers are doubles. -/
def maxExact : Nat := twoTo 53 - 1

/-- The longest text of letters. -/
def maxLength : Nat := 10000

/-- Letters that may be added to a lower bound that stands alone. -/
def extraLength : Nat := 10

/-- Letters without accents. -/
def letters : List Char := "abcdefghijklmnopqrstuvwxyzABCDEFGHIJKLMNOPQRSTUVWXYZ".toList

/-- Digits. -/
def digits : List Char := "0123456789".toList

/-- A number as JSON: an integer where it is one that doubles tell apart. -/
def numberJson (x : Float) : Json :=
  if Double.isWhole x && (Double.toInt64 x).natAbs ≤ maxExact then Json.int (Double.toInt64 x)
  else Json.ofFloat x

/-- A power of ten whose exponent is a count in 32 bits, the upper half of which is negative. -/
def scaleOf (places : Nat) : Float :=
  let n := places % twoTo 32
  if n < twoTo 31 then Float.ofScientific 1 false (min n 400)
  else 1 / Float.ofScientific 1 false (min (twoTo 32 - n) 400)

/-- Rounds to a number of places after the point. -/
def roundTo (x : Float) (places : Nat) : Float :=
  Double.round (x * scaleOf places) / scaleOf places

/-- A multiple of the step from `min` to `max`. A step that is not positive counts as one. -/
def multiple (min max step : Float) : Draw (Except MockError Json) :=
  let unit := if step > 0 then step else 1
  let low := Double.ceil (min / unit)
  let high := Double.floor (max / unit)
  if low > high then return .error (.emptyRange min max step)
  else do
    let factor ← Draw.int (Double.toInt64 low) (Double.toInt64 high)
    return .ok (numberJson (Float.ofInt factor * unit))

/-- Letters, at least one unless no fewer are asked for, as many as the bounds allow. -/
def lettersWithin (minLength maxLetters : Option Nat) : Draw (Except MockError Json) :=
  let low := minLength.getD 1
  if maxLength < low then return .error (.lengthTooLarge low maxLength)
  else do
    let high := min (max (maxLetters.getD (low + extraLength)) low) maxLength
    return .ok (.string (← Draw.text letters (← Draw.nat low high)))

/-- A text of a pattern. -/
def fromPattern (pattern : String) : Draw (Except MockError Json) :=
  match drawable? pattern with
  | none => return .error (.invalidPattern pattern)
  | some p => do return .ok (.string (String.ofList (← draw p)))

/-! ## Texts -/

/-- A word from a list. -/
def word (options : List String) : Draw String := Draw.oneOf "x" options

/-- A form with a digit for each number sign. -/
def fill : List Char → Draw (List Char)
  | [] => return []
  | '#' :: rest => do
    let digit ← Draw.oneOf '0' digits
    return digit :: (← fill rest)
  | c :: rest => do return c :: (← fill rest)

/-- A form from a list, filled with digits. -/
def formText (forms : List String) : Draw String := do
  return String.ofList (← fill (← word forms).toList)

/-- A host name. -/
def hostName : Draw String := do return (← word words) ++ "." ++ (← word hostEndings)

/-- The text with a capital letter at its start. -/
def capitalized (s : String) : String :=
  match s.toList with
  | [] => s
  | c :: rest => String.ofList (c.toUpper :: rest)

/-- Some words that end in a full stop. -/
def sentence : Draw String := do
  let parts ← Draw.times (word words) (← Draw.nat 3 9)
  return capitalized (" ".intercalate parts) ++ "."

/-- A number in some hexadecimal digits. -/
def hexText (alphabet : String) (count : Nat) : Draw String := Draw.text alphabet.toList count

/-- A random id in the usual groups of digits, marked as random. -/
def uuid : Draw String := do
  let hex := hexText "0123456789abcdef"
  return (← hex 8) ++ "-" ++ (← hex 4) ++ "-4" ++ (← hex 3) ++ "-" ++ (← hexText "89ab" 1) ++
    (← hex 3) ++ "-" ++ (← hex 12)

/-- Four numbers of a network address. -/
def ipv4 : Draw String := do
  return ".".intercalate ((← Draw.times (Draw.below 256) 4).map toString)

/-- Eight groups of a long network address. -/
def ipv6 : Draw String := do
  return ":".intercalate (← Draw.times (hexText "0123456789ABCDEF" 4) 8)

/-- A signed token with a fixed head. -/
def token : Draw String := do
  let alphabet := letters ++ digits
  return "eyJhbGciOiJIUzI1NiIsInR5cCI6IkpXVCJ9." ++ (← Draw.text alphabet 48) ++ "." ++
    (← Draw.text alphabet 43)

/-- A moment within the year before another. -/
def past (now : Moment) : Draw Moment := do
  return now.back (← Draw.nat 1 (365 * 24 * 60 * 60))

/-- An angle up to a bound to either side, with four places. -/
def angle (bound : Float) : Draw Json := do
  return numberJson (roundTo ((← Draw.unit) * (2 * bound) - bound) 4)

/-- A street with a house number. -/
def street : Draw String := do
  return toString (← Draw.nat 1 9999) ++ " " ++ (← word familyNames) ++ " " ++
    (← word streetEndings)

/-- A text with a number after it. -/
def numbered (start : String) (count : Nat) : Draw String := do
  return start ++ toString (← Draw.nat 1 count)

/-- A value that is always found. -/
def found (m : Draw Json) : Draw (Except MockError Json) := do return .ok (← m)

/-- A text that is always found. -/
def text (m : Draw String) : Draw (Except MockError Json) := do return .ok (.string (← m))

/-- The value of a capability. -/
def value (now : Moment) : Capability → Draw (Except MockError Json)
  | .date => text do return (← past now).dateText
  | .dateTime => text do return (← past now).fullText
  | .time => text (return now.hourText)
  | .email => text do return (← word words) ++ "@" ++ (← word safeHosts)
  | .hostname => text hostName
  | .ipv4 => text ipv4
  | .ipv6 => text ipv6
  | .url => text do return "https://" ++ (← hostName) ++ "/"
  | .token => text token
  | .city => text (word cities)
  | .country => text (word countries)
  | .latitude => found (angle 90)
  | .longitude => found (angle 180)
  | .state => text (word states)
  | .street => text street
  | .zip => text (formText zipForms)
  | .fullName => text do return (← word givenNames) ++ " " ++ (← word familyNames)
  | .uuid => text uuid
  | .integer => found do return Json.nat (← Draw.nat 0 maxExact)
  | .words => text do return " ".intercalate (← Draw.times (word words) 3)
  | .paragraph => text do return " ".intercalate (← Draw.times sentence (← Draw.nat 3 5))
  | .sentence => text sentence
  | .boolean => found do return .bool ((← Draw.below 2) = 1)
  | .image => text (numbered "https://loremflickr.com/640/480?lock=" 1000000)
  | .phone => text (formText phoneForms)
  | .avatar => text (numbered "https://avatars.githubusercontent.com/u/" 100000000)
  | .number min max step => multiple min max step
  | .float places => found do return numberJson (roundTo (← Draw.unit) places)
  | .seededId min max seed key => found (return Json.nat (SeededId.id min max seed key 0))
  | .alpha minLength maxLetters => lettersWithin minLength maxLetters
  | .fromRegex pattern => fromPattern pattern

/-- The generator that draws at random. -/
def generator (now : Moment) : Generator Seed where
  generate capability := value now capability
  pick count := Draw.below count

end MockApi.Sample
