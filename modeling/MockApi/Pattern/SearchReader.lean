import MockApi.Number.Power
import MockApi.Pattern.Bracket
import MockApi.Pattern.Search

/-! # Reading patterns to search for

`SearchPattern.ofText?` reads the written form of a pattern. Groups are numbered in the order of
their opening parentheses; a reference must name a group that is open or closed before it, and
references by number exclude named groups. Letters in parentheses set how the rest is read:
`i` ignores case, `m` lets `^` and `$` stand at lines, `s` lets a dot stand for line ends, `U`
exchanges greedy and lazy, `x` leaves out blanks and comments.
-/

namespace MockApi.Pattern

/-- How the rest of a pattern is read. -/
structure Flags where
  ignoreCase : Bool := false
  byLine : Bool := false
  dotAll : Bool := false
  swapped : Bool := false
  spaced : Bool := false

/-- Sets or clears the flag of a letter. -/
def Flags.set? (flags : Flags) (value : Bool) : Char → Option Flags
  | 'i' => some { flags with ignoreCase := value }
  | 'm' => some { flags with byLine := value }
  | 's' => some { flags with dotAll := value }
  | 'U' => some { flags with swapped := value }
  | 'x' => some { flags with spaced := value }
  | 'u' => if value then some flags else none
  | _ => none

namespace SearchReader

/-- The state of reading: the text that is left, the groups opened so far with their names, whether
a reference by number occurred, and the flags. -/
structure Reading where
  rest : List Char
  opened : Nat := 0
  names : List (String × Nat) := []
  numbered : Bool := false
  flags : Flags := {}

/-- A step of reading, which fails on text that is no pattern. -/
abbrev Step := StateT Reading Option

/-- How characters are read under the flags of a state. -/
def Reading.manner (r : Reading) : Manner := ⟨r.flags.ignoreCase, true, false⟩

/-- Leaves the text after what was read. -/
def advance (rest : List Char) : Step Unit := modify fun r => { r with rest }

/-- Takes a character when it comes next. -/
def takes (c : Char) : Step Bool := do
  match (← get).rest with
  | d :: rest => if c = d then advance rest; return true else return false
  | [] => return false

/-- Takes a character that must come next. -/
def must (c : Char) : Step Unit := do
  if !(← takes c) then failure

/-- Takes a text when it comes next. -/
def takesAll (cs : List Char) : Step Bool := do
  let rest := (← get).rest
  if cs.isPrefixOf rest then advance (rest.drop cs.length); return true else return false

/-- The text after a comment in parentheses, where a backslash hides a closing one. -/
def afterComment? : List Char → Option (List Char)
  | [] => none
  | ')' :: rest => some rest
  | '\\' :: _ :: rest => afterComment? rest
  | _ :: rest => afterComment? rest

/-- The text after blanks and comments. -/
def afterBlanks? (spaced : Bool) : Nat → List Char → Option (List Char)
  | 0, cs => some cs
  | fuel + 1, cs =>
    match cs with
    | '(' :: '?' :: '#' :: rest => do afterBlanks? spaced fuel (← afterComment? rest)
    | '#' :: rest =>
      if spaced then afterBlanks? spaced fuel ((rest.dropWhile (· != '\n')).drop 1) else some cs
    | c :: rest =>
      if spaced && (c = ' ' || c = '\r' || c = '\n' || c = '\t') then afterBlanks? spaced fuel rest
      else some cs
    | [] => some []

/-- Leaves out blanks and comments. -/
def skip : Step Unit := do
  let r ← get
  match afterBlanks? r.flags.spaced r.rest.length r.rest with
  | some rest => advance rest
  | none => failure

/-! ## Numbers and names -/

/-- Takes a number when one comes next. -/
def decimal? : Step (Option Nat) := do
  let rest := (← get).rest
  let digits := rest.takeWhile Char.isDigit
  if digits.isEmpty then return none
  advance (rest.drop digits.length)
  return some (digits.foldl (fun n c => n * 10 + (c.toNat - '0'.toNat)) 0)

/-- True of the characters of group names. -/
def isNameChar (c : Char) : Bool := Text.isWordChar c

/-- A group name up to its closing text. -/
def name (close : Char) : Step String := do
  let rest := (← get).rest
  let letters := rest.takeWhile isNameChar
  if letters.isEmpty then failure
  advance (rest.drop letters.length)
  must close
  return String.ofList letters

/-- A reference to a group opened so far; group 0 is the whole pattern. -/
def reference (group : Nat) : Step Nat := do
  if group ≤ (← get).opened then return group else failure

/-- A reference by name or by number in place of one; a negative number counts backwards. -/
def namedReference (close : Char) (signed : Bool) : Step Nat := do
  if signed && (← takes '-') then
    let some back ← decimal? | failure
    must close
    modify fun r => { r with numbered := true }
    if (← get).opened + 1 < back then failure
    reference ((← get).opened + 1 - back)
  else
    let id ← name close
    match (← get).names.lookup id, id.toNat? with
    | some group, _ => reference group
    | none, some group =>
      modify fun r => { r with numbered := true }
      reference group
    | none, none => failure

/-- A reference by number. A number of at least half the size of the pattern is none. -/
def numberedReference (size : Nat) : Step Nat := do
  let some group ← decimal? | failure
  if size / 2 ≤ group then failure
  modify fun r => { r with numbered := true }
  reference group

/-! ## Escapes and classes -/

/-- Hexadecimal digits of either case. -/
def hexClass : CharClass := ⟨(asciiRanges? "xdigit").getD []⟩

/-- The character of an escape that stands for one. -/
def escapedChar? : List Char → Option (Char × List Char)
  | 'x' :: rest => hexChar? 2 rest
  | 'u' :: rest => hexChar? 4 rest
  | 'U' :: rest => hexChar? 8 rest
  | 'e' :: rest => some ('\x1b', rest)
  | c :: rest =>
    match Escape.control? c with
    | some d => some (d, rest)
    | none => if c.isAlphanum then none else some (c, rest)
  | [] => none

/-- The class of an escape that stands for one. -/
def escapedClass? (m : Manner) : List Char → Option (CharClass × List Char)
  | 'h' :: rest => some (hexClass, rest)
  | 'H' :: rest => some (hexClass.complement, rest)
  | 'p' :: rest => (readProperty? rest).map fun (k, after) => (m.fold k, after)
  | 'P' :: rest => (readProperty? rest).map fun (k, after) => ((m.fold k).complement, after)
  | c :: rest => (m.letterClass? c).map (·, rest)
  | [] => none

/-- Characters that a class reads as themselves only after a backslash. -/
def isMeta (c : Char) : Bool := "\\.+*?()|[]\x7b\x7d^$#&-~".toList.contains c

/-- The plain written form of an escape inside a class: a backspace for `b`, and otherwise the class
or the character that it stands for. -/
def plainEscape? : List Char → Option (List Char × List Char)
  | 'b' :: rest => some (['\x08'], rest)
  | 'h' :: rest => some ("[0-9A-Fa-f]".toList, rest)
  | 'H' :: rest => some ("[^0-9A-Fa-f]".toList, rest)
  | cs =>
    match escapedClass? ⟨false, true, false⟩ cs, escapedChar? cs with
    | some (_, rest), _ => some ('\\' :: cs.take (cs.length - rest.length), rest)
    | none, some (c, rest) => some (if isMeta c then ['\\', c] else [c], rest)
    | none, none => none

/-- The plain written form of a class after its opening bracket, up to and with the bracket that
closes it, given how many brackets are open. -/
def plainClass? : Nat → Nat → List Char → Option (List Char × List Char)
  | 0, _, _ => none
  | fuel + 1, nested, cs =>
    match cs with
    | [] => none
    | '\\' :: rest => do
      let (text, after) ← plainEscape? rest
      let (more, rest) ← plainClass? fuel nested after
      return (text ++ more, rest)
    | '[' :: rest => (plainClass? fuel (nested + 1) rest).map fun (t, r) => ('[' :: t, r)
    | ']' :: rest =>
      if nested = 0 then some ([']'], rest)
      else (plainClass? fuel (nested - 1) rest).map fun (t, r) => (']' :: t, r)
    | c :: rest => (plainClass? fuel nested rest).map fun (t, r) => (c :: t, r)

/-- The start of a class: a caret, and a closing bracket that is its first member. -/
def classStart (cs : List Char) : List Char × List Char :=
  match cs with
  | '^' :: ']' :: rest => (['^', ']'], rest)
  | '^' :: rest => (['^'], rest)
  | ']' :: rest => ([']'], rest)
  | rest => ([], rest)

/-- A class after its opening bracket. -/
def classMember : Step SearchPattern := do
  let r ← get
  let (start, inside) := classStart r.rest
  let some (text, rest) := plainClass? (inside.length + 1) 0 inside | failure
  let some (k, []) := Bracket.class? r.manner (start ++ text) | failure
  advance rest
  return .member k

/-- The class of one character, in all its cases where case is ignored. -/
def charMember (r : Reading) (c : Char) : SearchPattern := .member (r.manner.fold (.single c))

/-- The edge of a word. Edges with a name in braces are not known. -/
def edge (p : Position) (rest : List Char) : Step SearchPattern := do
  if rest.head? = some '\x7b' then failure
  advance rest
  return .position p

/-- The escape after a backslash. -/
def escape (size : Nat) : Step SearchPattern := do
  let r ← get
  match r.rest with
  | [] => failure
  | 'k' :: '\'' :: rest => do advance rest; return .same (← namedReference '\'' true)
  | 'k' :: '<' :: rest => do advance rest; return .same (← namedReference '>' true)
  | 'A' :: rest => do advance rest; return .position .textStart
  | 'z' :: rest => do advance rest; return .position .textEnd
  | 'b' :: rest => edge .wordEdge rest
  | 'B' :: rest => edge .notWordEdge rest
  | '<' :: rest => do advance rest; return .position .wordStart
  | '>' :: rest => do advance rest; return .position .wordEnd
  | 'K' :: rest => do advance rest; return .restart
  | 'G' :: rest => do advance rest; return .searchStart
  | c :: _ =>
    if c.isDigit then return .same (← numberedReference size)
    match escapedClass? r.manner r.rest, escapedChar? r.rest with
    | some (k, rest), _ => advance rest; return .member k
    | none, some (d, rest) =>
      advance rest
      return if c.isAlpha then charMember r d else .member (.single d)
    | none, none => failure

/-! ## Repetition -/

/-- The counts between braces, after the opening one. -/
def counts : Step (Nat × Option Nat) := do
  skip
  let low ←
    if (← get).rest.head? = some ',' then pure 0
    else match ← decimal? with
      | some n => pure n
      | none => failure
  skip
  let high ←
    if ← takes ',' then do
      skip
      decimal?
    else pure (some low)
  skip
  must '\x7d'
  return (low, high)

/-- The largest count of a repetition. -/
def countLimit : Nat := twoTo 32 - 1

/-- How often what was read is repeated. Braces without counts are no repetition. -/
def quantity : Step (Option (Nat × Option Nat)) := do
  let r ← get
  match r.rest with
  | '?' :: rest => do advance rest; return some (0, some 1)
  | '*' :: rest => do advance rest; return some (0, none)
  | '+' :: rest => do advance rest; return some (1, none)
  | '\x7b' :: rest =>
    match counts.run { r with rest } with
    | some ((low, high), after) => do
      set after
      if countLimit < low || high.any (fun n => n < low || countLimit < n) then failure
      return some (low, high)
    | none => return none
  | _ => return none

/-- A pattern with the repetition that follows it: a question mark makes it lazy, a plus sign keeps
what it matched. -/
def repetition (p : SearchPattern) : Step SearchPattern := do
  skip
  match ← quantity with
  | none => return p
  | some (low, high) =>
    if !p.isRepeatable then failure
    skip
    let lazy ← takes '?'
    let swapped := (← get).flags.swapped
    let whole : SearchPattern := .repeated low high (lazy == swapped) p
    return if ← takes '+' then .committed whole else whole

/-- The patterns in a row as one, where nothing is left out. -/
def row : List SearchPattern → SearchPattern
  | [] => .empty
  | [p] => p
  | p :: rest => .seq p (row rest)

/-! ## Groups -/

/-- The ways in which a group can start, apart from flags. -/
inductive Opening where
  | capture
  | named (close : Char)
  | look (ahead holds : Bool)
  | committed
  | sameName
  | condition

/-- Takes the start of a group after its parenthesis; nothing where flags follow. -/
def opening : Step (Option Opening) := do
  if ← takesAll "?=".toList then return some (.look true true)
  if ← takesAll "?!".toList then return some (.look true false)
  if ← takesAll "?<=".toList then return some (.look false true)
  if ← takesAll "?<!".toList then return some (.look false false)
  if ← takesAll "?<".toList then return some (.named '>')
  if ← takesAll "?P<".toList then return some (.named '>')
  if ← takesAll "?P=".toList then return some .sameName
  if ← takesAll "?>".toList then return some .committed
  if ← takesAll "?(".toList then return some .condition
  if ← takes '?' then return none
  return some .capture

/-- Opens the next group. -/
def openGroup : Step Nat := do
  modify fun r => { r with opened := r.opened + 1 }
  return (← get).opened

/-- Reads flags up to a closing parenthesis or a colon; true for a colon. -/
def readFlags : Nat → (started value : Bool) → Step Bool
  | 0, _, _ => failure
  | fuel + 1, started, value => do
    let r ← get
    match r.rest with
    | '-' :: rest =>
      if !value then failure
      advance rest
      match rest.head? with
      | some ')' | some ':' => failure
      | _ => readFlags fuel true false
    | ')' :: rest => if started then do advance rest; return false else failure
    | ':' :: rest => do advance rest; return true
    | c :: rest =>
      match r.flags.set? value c with
      | some flags => do
        set { r with rest, flags }
        readFlags fuel true value
      | none => failure
    | [] => failure

/-- Groups may be nested this deep. -/
def depthLimit : Nat := 64

/-- The pattern of a condition: a test whether a group has captured, or a pattern. -/
def conditionOf : SearchPattern → SearchPattern
  | .same group => .captured group
  | p => p

/-- A condition with what was read after it: its alternatives are the two branches. -/
def conditional (condition : SearchPattern) : SearchPattern → SearchPattern
  | .either .empty .empty => conditionOf condition
  | .either yes no => .branch (conditionOf condition) yes no
  | .empty => conditionOf condition
  | yes => .branch (conditionOf condition) yes .empty

mutual

/-- Alternatives, up to a closing parenthesis or the end. -/
def choice (size depth : Nat) : Nat → Step SearchPattern
  | 0 => failure
  | fuel + 1 => do
    let first ← inRow size depth fuel []
    skip
    if (← get).rest.head? = some '|' then
      return .either first (← furtherChoice size depth fuel)
    let r ← get
    if r.numbered && !r.names.isEmpty then failure
    return first

/-- The alternatives after the first, each behind a bar. -/
def furtherChoice (size depth : Nat) : Nat → Step SearchPattern
  | 0 => failure
  | fuel + 1 => do
    must '|'
    let p ← inRow size depth fuel []
    skip
    if (← get).rest.head? = some '|' then
      return .either p (← furtherChoice size depth fuel)
    return p

/-- Parts in a row, after some that were read. -/
def inRow (size depth : Nat) : Nat → List SearchPattern → Step SearchPattern
  | 0, _ => failure
  | fuel + 1, before => do
    let left := (← get).rest.length
    let p ← part size depth fuel
    if (← get).rest.length = left then return row before.reverse
    inRow size depth fuel (if p = .empty then before else p :: before)

/-- A part with its repetition. -/
def part (size depth : Nat) : Nat → Step SearchPattern
  | 0 => failure
  | fuel + 1 => do
    skip
    let r ← get
    match r.rest with
    | [] => return .empty
    | '.' :: rest =>
      advance rest
      repetition (.member (if r.flags.dotAll then .all else (CharClass.single '\n').complement))
    | '^' :: rest =>
      advance rest
      repetition (.position (if r.flags.byLine then .lineStart else .textStart))
    | '$' :: rest =>
      advance rest
      repetition (.position (if r.flags.byLine then .lineEnd else .textEnd))
    | '(' :: rest =>
      advance rest
      repetition (← group size (depth + 1) fuel)
    | '\\' :: rest =>
      advance rest
      repetition (← escape size)
    | '[' :: rest =>
      advance rest
      repetition (← classMember)
    | c :: rest =>
      if c = '+' || c = '*' || c = '?' || c = '|' || c = ')' then repetition .empty
      else do
        advance rest
        repetition (charMember r c)

/-- A group after its opening parenthesis. -/
def group (size depth : Nat) : Nat → Step SearchPattern
  | 0 => failure
  | fuel + 1 => do
    if depthLimit ≤ depth then failure
    skip
    match ← opening with
    | none =>
      let flags := (← get).flags
      if ← readFlags ((← get).rest.length + 1) false true then
        let p ← choice size depth fuel
        must ')'
        modify fun r => { r with flags }
        return p
      return .empty
    | some .capture =>
      let number ← openGroup
      let p ← choice size depth fuel
      must ')'
      return .capture number p
    | some (.named close) =>
      let number ← openGroup
      let id ← name close
      modify fun r => { r with names := (id, number) :: r.names }
      let p ← choice size depth fuel
      must ')'
      return .capture number p
    | some (.look ahead holds) =>
      let p ← choice size depth fuel
      must ')'
      if ahead || p.hasFixedWidths then return .look ahead holds p else failure
    | some .committed =>
      let p ← choice size depth fuel
      must ')'
      return .committed p
    | some .sameName => return .same (← namedReference ')' false)
    | some .condition =>
      let condition ←
        match (← get).rest with
        | '\'' :: rest => do
          advance rest
          pure (SearchPattern.same (← namedReference '\'' true))
        | '<' :: rest => do
          advance rest
          pure (SearchPattern.same (← namedReference '>' true))
        | c :: _ =>
          if c.isDigit then do pure (SearchPattern.same (← numberedReference size))
          else choice size depth fuel
        | [] => failure
      must ')'
      let left := (← get).rest.length
      let p ← choice size depth fuel
      let plain := (← get).rest.length == left
      must ')'
      match plain, condition with
      | true, .same number => return .captured number
      | true, _ => failure
      | false, _ => return conditional condition p

end

end SearchReader

/-- The pattern that a text writes. Nothing for a text that is no pattern, or whose prepared form
would be too large. -/
def SearchPattern.ofText? (text : String) : Option SearchPattern := do
  let start : SearchReader.Reading := ⟨text.toList, 0, [], false, {}⟩
  let (p, r) ← (SearchReader.choice text.utf8ByteSize 0 (8 * text.length + 8)).run start
  if r.rest.isEmpty && p.cost ≤ costLimit then some p else none

end MockApi.Pattern
