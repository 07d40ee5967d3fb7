import MockApi.Pattern.Escape

/-! # Bracketed classes

A class between brackets lists characters, ranges, escapes, named classes and further brackets. A
caret at its start takes the complement; `&&`, `--` and `~~` join what stands before and after them,
from left to right. Hyphens at the start and a closing bracket as first member stand for themselves.
-/

namespace MockApi.Pattern

namespace Bracket

/-- An operation between two classes. -/
inductive Join where
  | inter
  | diff
  | symmDiff

/-- Joins what was read before an operation with what followed it. -/
def join (left : Option (Join × CharClass)) (right : CharClass) : CharClass :=
  match left with
  | none => right
  | some (.inter, k) => k.inter right
  | some (.diff, k) => k.diff right
  | some (.symmDiff, k) => k.symmDiff right

/-- A named class, given the text after its opening bracket. -/
def readNamed? : List Char → Option (CharClass × List Char)
  | ':' :: rest => do
    let (negated, rest) :=
      match rest with
      | '^' :: more => (true, more)
      | _ => (false, rest)
    let name := rest.takeWhile (· != ':')
    match rest.drop name.length with
    | ':' :: ']' :: after =>
      let k : CharClass := ⟨← asciiRanges? (String.ofList name)⟩
      return (if negated then k.complement else k, after)
    | _ => none
  | _ => none

/-- One member: a character or a class. -/
def readMember? (m : Manner) : List Char → Option ((Char ⊕ CharClass) × List Char)
  | [] => none
  | '\\' :: rest => do
    match ← Escape.read? m rest with
    | (.char c, after) => return (.inl c, after)
    | (.cls k, after) => return (.inr k, after)
    | (.position _, _) => none
  | c :: rest => some (.inl c, rest)

/-- The class of the characters from one to another. -/
def range? (first last : Char) : Option CharClass :=
  if first.toNat ≤ last.toNat then some (.ofRanges [(first.toNat, last.toNat)]) else none

/-- The text after a hyphen that makes a range with what stands before it. -/
def rangeMark? (m : Manner) (cs : List Char) : Option (List Char) :=
  match m.skip cs with
  | '-' :: rest =>
    match m.skip rest with
    | [] => none
    | ']' :: _ => none
    | '-' :: _ => none
    | _ => some (m.skip rest)
  | _ => none

/-- A member or a range of characters. -/
def readItem? (m : Manner) (cs : List Char) : Option (CharClass × List Char) := do
  let (first, rest) ← readMember? m cs
  match rangeMark? m rest, first with
  | none, .inl c => return (m.fold (.single c), rest)
  | none, .inr k => return (k, rest)
  | some _, .inr _ => none
  | some after, .inl c =>
    match ← readMember? m after with
    | (.inl d, more) => return (m.fold (← range? c d), more)
    | (.inr _, _) => none

/-- The hyphens at the start of a class, then a closing bracket that stands for itself when it is
the first member. -/
def readStart (m : Manner) (cs : List Char) : CharClass × List Char :=
  match m.skip cs with
  | '-' :: _ => (.single '-', (m.skip cs).dropWhile (· = '-'))
  | ']' :: rest => (.single ']', rest)
  | rest => (.none, rest)

mutual

/-- Reads a class after its opening bracket, up to and with its closing one. -/
def read? (m : Manner) : Nat → List Char → Option (CharClass × List Char)
  | 0, _ => none
  | fuel + 1, cs =>
    match m.skip cs with
    | '^' :: rest => do
      let (start, rest) := readStart m rest
      let (k, rest) ← readItems? m fuel none start rest
      return (k.complement, rest)
    | _ => do
      let (start, rest) := readStart m cs
      readItems? m fuel none start rest

/-- Reads the further members of a class, given what stands before an operation and the members
read since. -/
def readItems? (m : Manner) :
    Nat → Option (Join × CharClass) → CharClass → List Char → Option (CharClass × List Char)
  | 0, _, _, _ => none
  | fuel + 1, left, k, cs =>
    match m.skip cs with
    | [] => none
    | ']' :: rest => some (join left k, rest)
    | '&' :: '&' :: rest => readItems? m fuel (some (.inter, join left k)) .none rest
    | '-' :: '-' :: rest => readItems? m fuel (some (.diff, join left k)) .none rest
    | '~' :: '~' :: rest => readItems? m fuel (some (.symmDiff, join left k)) .none rest
    | '[' :: rest =>
      match readNamed? rest with
      | some (named, after) => readItems? m fuel left (k.union (m.fold named)) after
      | none => do
        let (inner, after) ← read? m fuel rest
        readItems? m fuel left (k.union inner) after
    | item => do
      let (member, after) ← readItem? m item
      readItems? m fuel left (k.union member) after

end

/-- Reads a class after its opening bracket. Every step takes a character, so the length of the text
bounds their number. -/
def class? (m : Manner) (cs : List Char) : Option (CharClass × List Char) :=
  read? m (2 * cs.length + 2) cs

end Bracket
end MockApi.Pattern
