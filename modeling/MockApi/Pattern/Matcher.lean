import MockApi.Pattern.Engine
import MockApi.Pattern.SearchReader

/-! # Finding matches

`SearchPattern.ends` lists the places where a match that starts at one place can end, the preferred
one first, each with the groups captured on the way. A place that comes up twice is listed once:
what can follow depends on the place alone. A repetition visits every place once for each count
that is left, and past its least count only rounds that take characters go on.
-/

namespace MockApi.Pattern

/-- A place in a text, with the groups captured so far by number, start and end. -/
structure Place where
  index : Nat
  groups : List (Nat × Nat × Nat) := []
deriving DecidableEq, Repr

namespace Place

/-- The place with a capture of a group, which replaces an earlier one. -/
def capture (p : Place) (group start : Nat) : Place :=
  { p with groups := (group, start, p.index) :: p.groups.filter fun g => g.1 != group }

end Place

namespace Position

/-- True at a position of a text. -/
def holds (text : Array Char) (index : Nat) : Position → Bool
  | .textStart => index = 0
  | .textEnd => index = text.size
  | .lineStart => index = 0 || text[index - 1]? = some '\n'
  | .lineEnd => index = text.size || text[index]? = some '\n'
  | .wordEdge => before != after
  | .notWordEdge => before == after
  | .wordStart => !before && after
  | .wordEnd => before && !after
where
  /-- True when a word character stands before. -/
  before : Bool := 0 < index && text[index - 1]?.any Text.isWordChar
  /-- True when a word character follows. -/
  after : Bool := text[index]?.any Text.isWordChar

end Position

namespace SearchPattern

/-- True when the pattern refers to what its groups capture. -/
def refers : SearchPattern → Bool
  | .same _ | .captured _ => true
  | .seq p q | .either p q => p.refers || q.refers
  | .capture _ p | .repeated _ _ _ p | .look _ _ p | .committed p => p.refers
  | .branch c p q => c.refers || p.refers || q.refers
  | _ => false

/-- What a repetition has visited, and the places found, the last one first. -/
structure Visit where
  seen : List (Nat × Option Nat × Place) := []
  found : List Place := []

/-- Adds a place unless it was found before. -/
def Visit.add (v : Visit) (p : Place) : Visit :=
  if v.found.contains p then v else { v with found := p :: v.found }

/-- Visits the places that between `low` and `high` further rounds lead to. The bound is on the
number of rounds. -/
def visit (step : Place → List Place) (greedy : Bool) :
    Nat → Nat → Option Nat → Place → Visit → Visit
  | 0, _, _, _, v => v
  | bound + 1, low, high, p, v =>
    if v.seen.contains (low, high, p) then v
    else
      let v := { v with seen := (low, high, p) :: v.seen }
      let v := if low = 0 && !greedy then v.add p else v
      let next :=
        if high = some 0 then [] else (step p).filter fun q => 0 < low || q.index != p.index
      let v := next.foldl (fun v q =>
        visit step greedy bound (low - 1) (high.map (· - 1)) q v) v
      if low = 0 && greedy then v.add p else v

/-- The places where a match that starts at a place can end, the preferred one first. -/
def ends (text : Array Char) (refers : Bool) : SearchPattern → Place → List Place
  | .empty, p | .restart, p => [p]
  | .member k, p =>
    if text[p.index]?.any k.contains then [{ p with index := p.index + 1 }] else []
  | .position place, p => if place.holds text p.index then [p] else []
  | .seq a b, p => ((ends text refers a p).flatMap (ends text refers b)).eraseDups
  | .either a b, p => (ends text refers a p ++ ends text refers b p).eraseDups
  | .capture group a, p =>
    if refers then (ends text refers a p).map fun q => q.capture group p.index
    else ends text refers a p
  | .same group, p =>
    match p.groups.lookup group with
    | none => []
    | some (start, stop) =>
      let captured := text.extract start stop
      if text.extract p.index (p.index + captured.size) = captured then
        [{ p with index := p.index + captured.size }]
      else []
  | .repeated low high greedy a, p =>
    (visit (ends text refers a) greedy (low + text.size + 1) low high p {}).found.reverse
  | .look true holds a, p =>
    match ends text refers a p with
    | [] => if holds then [] else [p]
    | q :: _ => if holds then [{ q with index := p.index }] else []
  | .look false holds a, p =>
    let starts := (List.range (p.index + 1)).map fun i => { p with index := i }
    match (starts.flatMap (ends text refers a)).filter fun q => q.index = p.index with
    | [] => if holds then [] else [p]
    | q :: _ => if holds then [q] else []
  | .committed a, p => (ends text refers a p).take 1
  | .searchStart, p => if p.index = 0 then [p] else []
  | .captured group, p => if (p.groups.lookup group).isSome then [p] else []
  | .branch c a b, p =>
    match ends text refers c p with
    | q :: _ => ends text refers a q
    | [] => ends text refers b p

/-- True when a match starts somewhere in the text. -/
def isFoundIn (p : SearchPattern) (text : String) : Bool :=
  let chars := text.toList.toArray
  let refers := p.refers
  (List.range (chars.size + 1)).any fun i => !(p.ends chars refers ⟨i, []⟩).isEmpty

end SearchPattern

/-- Patterns are read as patterns to search for. -/
def searchEngine : PatternEngine :=
  ⟨fun text => (SearchPattern.ofText? text).map SearchPattern.isFoundIn⟩

end MockApi.Pattern
