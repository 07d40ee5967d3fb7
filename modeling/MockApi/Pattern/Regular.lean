import MockApi.Number.Power
import MockApi.Pattern.Bracket

/-! # Patterns to draw texts from

`Regular.ofText?` reads patterns that are built from characters, choices and repetitions alone.
References and looks to either side are no part of them. Places in a text can be read, but no text
can be drawn where one is left: repeating something no times leaves nothing of it.

Letters in parentheses set how the rest of a group is read: `i` ignores case, `s` and `R` change
which line ends a dot leaves out, `x` leaves out blanks and comments, and a cleared `u` keeps
classes among the first 128 code points.
-/

namespace MockApi.Pattern

/-- A pattern to draw texts from. -/
inductive Regular where
  | empty
  /-- One character of a class. -/
  | member (k : CharClass)
  /-- A place in a text. -/
  | place
  | seq (first second : Regular)
  | either (alternatives : List Regular)
  | repeated (low : Nat) (high : Option Nat) (p : Regular)

namespace Regular

/-- A repetition; nothing is left of what is repeated no times. -/
def times (low : Nat) (high : Option Nat) (p : Regular) : Regular :=
  if high = some 0 then .empty else .repeated low high p

mutual

/-- True when texts can be drawn: no place is left and no class is empty. -/
def isDrawable : Regular → Bool
  | .empty => true
  | .member k => 0 < k.size
  | .place => false
  | .seq p q => p.isDrawable && q.isDrawable
  | .either ps => areDrawable ps
  | .repeated _ _ p => p.isDrawable

/-- True when texts can be drawn from every alternative. -/
def areDrawable : List Regular → Bool
  | [] => true
  | p :: rest => p.isDrawable && areDrawable rest

end

/-! ## Reading -/

/-- How the rest of a group is read. -/
structure Mode where
  ignoreCase : Bool := false
  dotAll : Bool := false
  carriage : Bool := false
  wide : Bool := true
  spaced : Bool := false

/-- How characters are read. -/
def Mode.manner (m : Mode) : Manner := ⟨m.ignoreCase, m.wide, m.spaced⟩

/-- Sets or clears what a letter stands for. -/
def Mode.set? (m : Mode) (value : Bool) : Char → Option Mode
  | 'i' => some { m with ignoreCase := value }
  | 's' => some { m with dotAll := value }
  | 'R' => some { m with carriage := value }
  | 'u' => some { m with wide := value }
  | 'x' => some { m with spaced := value }
  | 'm' | 'U' => some m
  | _ => none

/-- The characters that a dot stands for. -/
def Mode.dot (m : Mode) : CharClass :=
  if m.dotAll then .all
  else if m.carriage then (CharClass.ofRanges [(10, 10), (13, 13)]).complement
  else (CharClass.single '\n').complement

/-- The state of reading: the text that is left, the names of groups and the mode. -/
structure Reading where
  rest : List Char
  names : List String := []
  mode : Mode := {}

/-- A step of reading, which fails on text that is no pattern. -/
abbrev Step := StateT Reading Option

/-- Leaves the text after what was read. -/
def advance (rest : List Char) : Step Unit := modify fun r => { r with rest }

/-- Leaves out blanks and comments where they have no meaning. -/
def skip : Step Unit := modify fun r => { r with rest := r.mode.manner.skip r.rest }

/-- Takes a character when it comes next. -/
def takes (c : Char) : Step Bool := do
  match (← get).rest with
  | d :: rest => if c = d then advance rest; return true else return false
  | [] => return false

/-- Takes a character that must come next. -/
def must (c : Char) : Step Unit := do
  if !(← takes c) then failure

/-- One character of a class that may stand in a pattern. -/
def memberOf (k : CharClass) : Step Regular := do
  if (← get).mode.manner.permits k then return .member k else failure

/-- The largest count of a repetition. -/
def countLimit : Nat := twoTo 32 - 1

/-- A number between blanks. -/
def count : Step Nat := do
  let rest := (← get).rest.dropWhile Text.isBlank
  let digits := rest.takeWhile Char.isDigit
  if digits.isEmpty then failure
  advance ((rest.drop digits.length).dropWhile Text.isBlank)
  let n := digits.foldl (fun n c => n * 10 + (c.toNat - '0'.toNat)) 0
  if countLimit < n then failure
  return n

/-- The counts between braces, after the opening one. -/
def counts : Step (Nat × Option Nat) := do
  skip
  let low ← count
  if ← takes ',' then
    skip
    if ← takes '\x7d' then return (low, none)
    let high ← count
    must '\x7d'
    if high < low then failure
    return (low, some high)
  must '\x7d'
  return (low, some low)

/-- A character of a group name, the first one with fewer choices. -/
def isNameChar (first : Bool) (c : Char) : Bool :=
  c = '_' || (Text.isWordChar c && !(first && Text.isAnyDigit c)) ||
    (!first && (c = '.' || c = '[' || c = ']'))

/-- A new group name up to its closing bracket. -/
def newName : Step Unit := do
  let r ← get
  let letters := r.rest.takeWhile (· != '>')
  let id := String.ofList letters
  match letters with
  | [] => failure
  | c :: more =>
    if !isNameChar true c || !more.all (isNameChar false) || r.names.contains id then failure
    set { r with rest := r.rest.drop letters.length, names := id :: r.names }
    must '>'

/-- Reads flags up to a closing parenthesis or a colon; true for a colon. Each flag is written once,
and one follows a hyphen. -/
def readFlags : Nat → List Char → Step Bool
  | 0, _ => failure
  | fuel + 1, seen => do
    let r ← get
    match r.rest with
    | ')' :: rest =>
      if seen.isEmpty || seen.head? = some '-' then failure
      advance rest
      return false
    | ':' :: rest =>
      if seen.head? = some '-' then failure
      advance rest
      return true
    | c :: rest =>
      if seen.contains c then failure
      if c = '-' then advance rest
      else match r.mode.set? (!seen.contains '-') c with
        | some mode => set { r with rest, mode }
        | none => failure
      readFlags fuel (c :: seen)
    | [] => failure

/-- True of the starts of looks to either side, after the opening parenthesis. -/
def isLook : List Char → Bool
  | '?' :: '=' :: _ | '?' :: '!' :: _ | '?' :: '<' :: '=' :: _ | '?' :: '<' :: '!' :: _ => true
  | _ => false

/-- Parts in a row as one. -/
def row : List Regular → Regular
  | [] => .empty
  | [p] => p
  | p :: rest => .seq p (row rest)

/-- Parts read since the last bar, the last one first. Nothing stands for flags. -/
abbrev Parts := List (Option Regular)

/-- The parts in a row. -/
def Parts.row (parts : Parts) : Regular := Regular.row (parts.reverse.filterMap id)

/-- Repeats the last part, which must not be flags. -/
def repeatLast (low : Nat) (high : Option Nat) : Parts → Step Parts
  | some p :: before => do
    let _ ← takes '?'
    return some (times low high p) :: before
  | _ => failure

/-- Alternatives as one pattern. -/
def choices : List Regular → Regular
  | [p] => p
  | ps => .either ps

mutual

/-- Parts and alternatives up to a closing parenthesis or the end, after some that were read. -/
def choice : Nat → List Regular → Parts → Step Regular
  | 0, _, _ => failure
  | fuel + 1, before, parts => do
    skip
    let r ← get
    match r.rest with
    | [] => return choices (parts.row :: before).reverse
    | ')' :: _ => return choices (parts.row :: before).reverse
    | '|' :: rest =>
      advance rest
      choice fuel (parts.row :: before) []
    | '(' :: rest =>
      advance rest
      choice fuel before ((← group fuel) :: parts)
    | '[' :: rest =>
      match Bracket.class? r.mode.manner rest with
      | none => failure
      | some (k, after) =>
        advance after
        choice fuel before (some (← memberOf k) :: parts)
    | '?' :: rest =>
      advance rest
      choice fuel before (← repeatLast 0 (some 1) parts)
    | '*' :: rest =>
      advance rest
      choice fuel before (← repeatLast 0 none parts)
    | '+' :: rest =>
      advance rest
      choice fuel before (← repeatLast 1 none parts)
    | '\x7b' :: rest =>
      advance rest
      let (low, high) ← counts
      skip
      choice fuel before (← repeatLast low high parts)
    | '.' :: rest =>
      advance rest
      choice fuel before (some (← memberOf r.mode.dot) :: parts)
    | '^' :: rest =>
      advance rest
      choice fuel before (some .place :: parts)
    | '$' :: rest =>
      advance rest
      choice fuel before (some .place :: parts)
    | '\\' :: rest =>
      match Escape.read? r.mode.manner rest with
      | none => failure
      | some (.char c, after) =>
        advance after
        choice fuel before (some (.member (r.mode.manner.fold (.single c))) :: parts)
      | some (.cls k, after) =>
        advance after
        choice fuel before (some (← memberOf k) :: parts)
      | some (.position _, after) =>
        advance after
        choice fuel before (some .place :: parts)
    | c :: rest =>
      advance rest
      choice fuel before (some (.member (r.mode.manner.fold (.single c))) :: parts)

/-- A group after its opening parenthesis; nothing for flags. -/
def group : Nat → Step (Option Regular)
  | 0 => failure
  | fuel + 1 => do
    skip
    let r ← get
    if isLook r.rest then failure
    match r.rest with
    | '?' :: 'P' :: '<' :: rest =>
      advance rest
      newName
    | '?' :: '<' :: rest =>
      advance rest
      newName
    | '?' :: rest =>
      advance rest
      if !(← readFlags (rest.length + 1) []) then return none
    | _ => pure ()
    let p ← choice fuel [] []
    must ')'
    modify fun s => { s with mode := r.mode }
    return some p

end

/-- The pattern that a text writes. -/
def ofText? (text : List Char) : Option Regular := do
  let (p, r) ← (choice (2 * text.length + 2) [] []).run ⟨text, [], {}⟩
  if r.rest.isEmpty then some p else none

end Regular
end MockApi.Pattern
