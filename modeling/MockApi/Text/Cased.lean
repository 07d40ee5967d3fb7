import MockApi.Text.Category

/-! # Characters with case

Letters of upper, lower and title case have case, and so have some modifiers, numbers and signs that
are written like such letters. Marks, modifiers, accents and a few signs of punctuation that occur
inside words are ignorable for case: a rule that looks for a character with case beside another one
passes over them.
-/

namespace MockApi.Text

/-- Lower case characters that are not letters of that case by their category. -/
def otherLowercase : List (Nat × Nat) := [
  (0xAA, 0xAA), (0xBA, 0xBA), (0x2B0, 0x2B8), (0x2C0, 0x2C1), (0x2E0, 0x2E4), (0x345, 0x345),
  (0x37A, 0x37A), (0x10FC, 0x10FC), (0x1D2C, 0x1D6A), (0x1D78, 0x1D78), (0x1D9B, 0x1DBF),
  (0x2071, 0x2071), (0x207F, 0x207F), (0x2090, 0x209C), (0x2170, 0x217F), (0x24D0, 0x24E9),
  (0x2C7C, 0x2C7D), (0xA69C, 0xA69D), (0xA770, 0xA770), (0xA7F2, 0xA7F4), (0xA7F8, 0xA7F9),
  (0xAB5C, 0xAB5F), (0xAB69, 0xAB69), (0x10780, 0x10780), (0x10783, 0x10785), (0x10787, 0x107B0),
  (0x107B2, 0x107BA), (0x1E030, 0x1E06D)]

/-- Upper case characters that are not letters of that case by their category. -/
def otherUppercase : List (Nat × Nat) := [
  (0x2160, 0x216F), (0x24B6, 0x24CF), (0x1F130, 0x1F149), (0x1F150, 0x1F169), (0x1F170, 0x1F189)]

/-- Ranges of characters with case. -/
def casedRanges : List (Nat × Nat) :=
  categoryRanges "LC" ++ otherLowercase ++ otherUppercase

/-- Apostrophes, full stops, colons and middle dots. -/
def midWordRanges : List (Nat × Nat) := [
  (0x27, 0x27), (0x2E, 0x2E), (0x3A, 0x3A), (0xB7, 0xB7), (0x387, 0x387), (0x55F, 0x55F),
  (0x5F4, 0x5F4), (0x2018, 0x2019), (0x2024, 0x2024), (0x2027, 0x2027), (0xFE13, 0xFE13),
  (0xFE52, 0xFE52), (0xFE55, 0xFE55), (0xFF07, 0xFF07), (0xFF0E, 0xFF0E), (0xFF1A, 0xFF1A)]

/-- Ranges of characters that are ignorable for case. -/
def caseIgnorableRanges : List (Nat × Nat) :=
  ["Mn", "Me", "Cf", "Lm", "Sk"].flatMap categoryRanges ++ midWordRanges

/-- True of characters with case. -/
def isCased (c : Char) : Bool := inRanges casedRanges c.toNat

/-- True of characters that are ignorable for case. -/
def isCaseIgnorable (c : Char) : Bool := inRanges caseIgnorableRanges c.toNat

/-- True when the first character that is not ignorable for case has case. -/
def startsCased (cs : List Char) : Bool := (cs.dropWhile isCaseIgnorable).head?.any isCased

end MockApi.Text
