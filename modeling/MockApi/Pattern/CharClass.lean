import MockApi.Text.Case
import MockApi.Text.CodeRange

/-! # Character classes

A class is a set of characters, held as increasing, disjoint ranges of code points. Besides the
operations on sets there is closure under letter case, and the choice of a member by its position.
-/

namespace MockApi.Pattern

/-- A set of characters as increasing ranges of code points. -/
structure CharClass where
  ranges : List (Nat × Nat)
deriving DecidableEq, Repr

namespace CharClass

/-- No character. -/
def none : CharClass := ⟨[]⟩

/-- Every character: all code points but the surrogates. -/
def all : CharClass := ⟨[(0, 0xD7FF), (0xE000, Text.lastCode)]⟩

/-- Joins ranges in increasing order that overlap or touch. -/
def joinRanges : List (Nat × Nat) → List (Nat × Nat)
  | [] => []
  | r :: rest =>
    match joinRanges rest with
    | [] => [r]
    | s :: more => if s.1 ≤ r.2 + 1 then (r.1, max r.2 s.2) :: more else r :: s :: more

/-- The ranges that lie outside of increasing ranges, from a code point on. -/
def gapsFrom (start : Nat) : List (Nat × Nat) → List (Nat × Nat)
  | [] => if start ≤ Text.lastCode then [(start, Text.lastCode)] else []
  | r :: rest =>
    let gaps := gapsFrom (max start (r.2 + 1)) rest
    if start < r.1 then (start, r.1 - 1) :: gaps else gaps

/-- The characters of both classes. -/
def inter (a b : CharClass) : CharClass :=
  ⟨a.ranges.flatMap fun r => b.ranges.filterMap fun s =>
    if max r.1 s.1 ≤ min r.2 s.2 then some (max r.1 s.1, min r.2 s.2) else Option.none⟩

/-- The class of the characters in some ranges, which may be in any order. -/
def ofRanges (ranges : List (Nat × Nat)) : CharClass :=
  inter ⟨joinRanges (ranges.mergeSort fun r s => r.1 ≤ s.1)⟩ all

/-- The class of one character. -/
def single (c : Char) : CharClass := ⟨[(c.toNat, c.toNat)]⟩

/-- The characters of either class. -/
def union (a b : CharClass) : CharClass := ofRanges (a.ranges ++ b.ranges)

/-- The characters that are not in the class. -/
def complement (k : CharClass) : CharClass := inter ⟨gapsFrom 0 k.ranges⟩ all

/-- The characters of the first class that are not in the second. -/
def diff (a b : CharClass) : CharClass := inter a b.complement

/-- The characters of exactly one of two classes. -/
def symmDiff (a b : CharClass) : CharClass := union (diff a b) (diff b a)

/-- True of the members. -/
def contains (k : CharClass) (c : Char) : Bool := Text.inRanges k.ranges c.toNat

/-- The number of members. -/
def size (k : CharClass) : Nat := k.ranges.foldl (fun n r => n + (r.2 + 1 - r.1)) 0

/-- The member at a position, in the order of code points. -/
def nth? (k : CharClass) (n : Nat) : Option Char :=
  go k.ranges n
where
  /-- The member at a position of ranges. -/
  go : List (Nat × Nat) → Nat → Option Char
    | [], _ => Option.none
    | r :: rest, n =>
      if n < r.2 + 1 - r.1 then some (Char.ofNat (r.1 + n)) else go rest (n - (r.2 + 1 - r.1))

/-- True when all members are among the first 128 code points. -/
def isAscii (k : CharClass) : Bool := k.ranges.all fun r => r.2 < 128

/-! ## Letter case -/

/-- The code points of a run of letters. -/
def runCodes (r : Text.CaseRun) : List Nat :=
  (List.range (r.last + 1 - r.first)).filterMap fun i =>
    if i % r.step = 0 then some (r.first + i) else Option.none

/-- Letters beyond the first 128 code points that have another case, with the form they share with
it. The dotless i has no partner: its capital belongs to the dotted one. -/
def casedCodes : List (Nat × Char) :=
  ((Text.lowerRuns ++ Text.upperRuns).flatMap runCodes).filterMap fun n =>
    if n = 0x131 then Option.none else some (n, Text.foldChar (Char.ofNat n))

/-- The letters of the first 128 code points in a class, with their other cases: the signs for
kelvin and the long s are such cases of k and s. -/
def foldAscii (k : CharClass) : List (Nat × Nat) :=
  (List.range 128).flatMap fun n =>
    let c := Char.ofNat n
    if c.isAlpha && k.contains c then
      let cases := [(c.toLower.toNat, c.toLower.toNat), (c.toUpper.toNat, c.toUpper.toNat)]
      if c.toLower = 'k' then (0x212A, 0x212A) :: cases
      else if c.toLower = 's' then (0x17F, 0x17F) :: cases
      else cases
    else []

/-- The other cases of the letters beyond the first 128 code points in a class. -/
def foldWide (k : CharClass) : List (Nat × Nat) :=
  let letters := casedCodes
  let forms := (letters.filter fun p => Text.inRanges k.ranges p.1).map Prod.snd
  (letters.filterMap fun p =>
      if forms.contains p.2 then some (p.1, p.1) else Option.none) ++
    forms.flatMap fun c => [(c.toNat, c.toNat), (c.toUpper.toNat, c.toUpper.toNat)]

/-- The class with all cases of its letters. -/
def foldCase (k : CharClass) : CharClass :=
  if k.isAscii then ofRanges (k.ranges ++ k.foldAscii)
  else ofRanges (k.ranges ++ k.foldAscii ++ k.foldWide)

end CharClass
end MockApi.Pattern
