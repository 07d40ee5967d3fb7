import MockApi.Yaml.Token
import MockApi.Number.Read

/-! # Scalars in YAML text

The three ways to write a scalar: plain, in quotes and as a block. Line breaks inside plain and
quoted scalars fold: a single one becomes a space, of several the first is dropped. Each function
gives the text and the place after it, or nothing where the text is not YAML.
-/

namespace MockApi.Yaml

/-- Blanks seen between two words: the ones on the line, the first break and the breaks after it. -/
structure Gap where
  spaces : List Char := []
  firstBreak : Option (List Char) := none
  laterBreaks : List Char := []

namespace Gap

/-- True when a line break was seen. -/
def broken (g : Gap) : Bool := g.firstBreak.isSome

/-- The text that a gap stands for. -/
def fold (g : Gap) : List Char :=
  match g.firstBreak with
  | none => g.spaces
  | some ['\n'] => if g.laterBreaks.isEmpty then [' '] else g.laterBreaks
  | some other => other ++ g.laterBreaks

/-- Adds a line break. -/
def addBreak (g : Gap) (b : List Char) : Gap :=
  if g.broken then { g with laterBreaks := g.laterBreaks ++ b }
  else { g with spaces := [], firstBreak := some b }

/-- Adds a blank; after a line break blanks do not count. -/
def addSpace (g : Gap) (c : Char) : Gap :=
  if g.broken then g else { g with spaces := g.spaces ++ [c] }

/-- Collects blanks and breaks. A tab in the indentation of a plain scalar is refused; `indent` is
zero where that does not matter. -/
def collect (indent : Nat) : Nat → Gap → Place → Option (Gap × Place)
  | 0, g, p => some (g, p)
  | fuel + 1, g, p =>
    match p.rest with
    | [] => some (g, p)
    | c :: _ =>
      if Place.isSpace c then
        if g.broken && p.column < indent && c == '\t' then none
        else collect indent fuel (g.addSpace c) p.next
      else if Place.isBreak c then
        let (b, after) := p.takeBreak
        collect indent fuel (g.addBreak b) after
      else some (g, p)

end Gap

namespace Plain

/-- The characters that end a plain scalar inside brackets. -/
def isFlowIndicator (c : Char) : Bool :=
  c == ',' || c == '[' || c == ']' || c == '\x7b' || c == '\x7d'

/-- One word of a plain scalar. A colon directly before a bracket is refused inside brackets. -/
def word (inFlow : Bool) : Nat → Place → List Char → Option (List Char × Place)
  | 0, p, done => some (done.reverse, p)
  | fuel + 1, p, done =>
    match p.rest with
    | [] => some (done.reverse, p)
    | c :: rest =>
      if Place.isSpace c || Place.isBreak c then some (done.reverse, p)
      else if inFlow && c == ':' &&
          rest.head?.any (fun d => isFlowIndicator d || d == '?') then none
      else if (c == ':' && p.endsAt 1) || (inFlow && isFlowIndicator c) then
        some (done.reverse, p)
      else word inFlow fuel p.next (c :: done)

/-- The words of a plain scalar with the gaps between them. The flag tells whether a line break came
last. -/
def words (inFlow : Bool) (indent : Nat) : Nat → Gap → Place → List Char →
    Option (List Char × Bool × Place)
  | 0, g, p, done => some (done, g.broken, p)
  | fuel + 1, g, p, done =>
    if p.atDocumentMark || p.ahead '#' then some (done, g.broken, p)
    else do
      let (letters, after) ← word inFlow (p.rest.length + 1) p []
      let (done, g) := if letters.isEmpty then (done, g) else (done ++ g.fold ++ letters, {})
      if !(after.atSpace || after.atBreak) then return (done, g.broken, after)
      let (g, after) ← g.collect indent (after.rest.length + 1) after
      if !inFlow && after.column < indent then return (done, g.broken, after)
      words inFlow indent fuel g after done

/-- A plain scalar. -/
def scan (inFlow : Bool) (indent : Nat) (p : Place) : Option (String × Bool × Place) :=
  (words inFlow indent (p.rest.length + 1) {} p []).map fun (text, broken, after) =>
    (String.ofList text, broken, after)

end Plain

namespace Quoted

/-- The character of a one letter escape. -/
def simpleEscape? (c : Char) : Option Nat :=
  match c with
  | '0' => some 0
  | 'a' => some 7
  | 'b' => some 8
  | 't' => some 9
  | '\t' => some 9
  | 'n' => some 10
  | 'v' => some 11
  | 'f' => some 12
  | 'r' => some 13
  | 'e' => some 27
  | ' ' => some 32
  | '"' => some 34
  | '/' => some 47
  | '\\' => some 92
  | 'N' => some 0x85
  | '_' => some 0xA0
  | 'L' => some 0x2028
  | 'P' => some 0x2029
  | _ => none

/-- The count of hexadecimal digits after an escape letter. -/
def hexWidth? (c : Char) : Option Nat :=
  match c with
  | 'x' => some 2
  | 'u' => some 4
  | 'U' => some 8
  | _ => none

/-- An escape in double quotes; the place is at the backslash. -/
def escape? (p : Place) : Option (Char × Place) := do
  let c ← (p.rest.drop 1).head?
  match simpleEscape? c with
  | some n => return (Char.ofNat n, p.advance 2)
  | none =>
    let width ← hexWidth? c
    let digits := (p.rest.drop 2).take width
    let n ← if digits.length = width then readRadix? 16 digits else none
    if (0xD800 ≤ n ∧ n ≤ 0xDFFF) ∨ 0x10FFFF < n then none
    else return (Char.ofNat n, p.advance (2 + width))

/-- A run without blanks inside quotes. The flag tells that an escaped line break ended it. -/
def run (single : Bool) : Nat → Place → List Char → Option (List Char × Bool × Place)
  | 0, _, _ => none
  | fuel + 1, p, done =>
    match p.rest with
    | [] => some (done.reverse, false, p)
    | c :: rest =>
      if Place.isSpace c || Place.isBreak c then some (done.reverse, false, p)
      else if single && c == '\'' && rest.head? == some '\'' then
        run single fuel (p.advance 2) ('\'' :: done)
      else if c == (if single then '\'' else '"') then some (done.reverse, false, p)
      else if !single && c == '\\' then
        if rest.head?.any Place.isBreak then some (done.reverse, true, p.next.takeBreak.2)
        else match escape? p with
          | some (x, after) => run single fuel after (x :: done)
          | none => none
      else run single fuel p.next (c :: done)

/-- The contents up to the closing quote. -/
def contents (single : Bool) : Nat → Place → List Char → Option (List Char × Place)
  | 0, _, _ => none
  | fuel + 1, p, done =>
    if p.atDocumentMark then none
    else do
      let (letters, escapedBreak, after) ← run single (p.rest.length + 1) p []
      let done := done ++ letters
      if after.ahead (if single then '\'' else '"') then return (done, after.next)
      let start : Gap := if escapedBreak then { firstBreak := some [] } else {}
      let (gap, later) ← start.collect 0 (after.rest.length + 1) after
      if later.rest.isEmpty then none
      else contents single fuel later (done ++ gap.fold)

/-- A scalar in quotes; the place is at the opening quote. -/
def scan (single : Bool) (p : Place) : Option (String × Place) :=
  (contents single (p.rest.length + 1) p.next []).map fun (text, after) =>
    (String.ofList text, after)

end Quoted

namespace Block

/-- What happens to the breaks at the end of a block. -/
inductive Chomp where
  | strip
  | clip
  | keep
deriving DecidableEq

/-- The chomping mark that a character is. -/
def chomp? (c : Char) : Option Chomp :=
  if c = '+' then some .keep else if c = '-' then some .strip else none

/-- The marks after the indicator: chomping and indentation in either order. -/
def marks (p : Place) : Option (Chomp × Option Nat × Place) :=
  let digit (p : Place) : Option (Option Nat × Place) :=
    match p.rest with
    | c :: _ =>
      if c = '0' then none
      else if c.isDigit then some (some (c.toNat - 48), p.next) else some (none, p)
    | [] => some (none, p)
  let sign (p : Place) : Option Chomp × Place :=
    match p.rest.head?.bind chomp? with
    | some s => (some s, p.next)
    | none => (none, p)
  match sign p with
  | (some s, after) => (digit after).map fun (n, after) => (s, n, after)
  | (none, _) =>
    (digit p).map fun (n, after) =>
      match n, sign after with
      | some n, (some s, after) => (s, some n, after)
      | n, _ => (.clip, n, after)

/-- Passes indentation and empty lines. Gives the breaks passed and the widest indentation; without
a fixed indentation any blanks count. A tab in the indentation is refused. -/
def breaks (indent : Option Nat) : Nat → Nat → Place → List Char → Option (Nat × List Char × Place)
  | 0, widest, p, done => some (widest, done, p)
  | fuel + 1, widest, p, done =>
    let within (column : Nat) : Bool := indent.all (column < ·)
    let blanks := (p.rest.takeWhile (· == ' ')).length
    let passed := match indent with
      | none => blanks
      | some n => min blanks (n - p.column)
    let p := p.advance passed
    let widest := max widest p.column
    if within p.column && p.ahead '\t' then none
    else if p.atBreak then
      let (b, after) := p.takeBreak
      breaks indent fuel widest after (done ++ b)
    else some (widest, done, p)

/-- The lines of a block. A folded block joins two lines by a space unless one of them starts with a
blank. Gives the text, the last break and the breaks after it. -/
def lines (folded : Bool) (indent : Nat) : Nat → Place → List Char → List Char → List Char → Bool →
    Option (List Char × List Char × List Char × Place)
  | 0, p, done, lead, trail, _ => some (done, lead, trail, p)
  | fuel + 1, p, done, lead, trail, afterBlank =>
    if p.column ≠ indent ∨ p.rest.isEmpty then some (done, lead, trail, p)
    else do
      let blank := p.atSpace
      let joint :=
        if folded && lead == ['\n'] && !afterBlank && !blank then
          if trail.isEmpty then [' '] else []
        else lead
      let line := p.rest.takeWhile fun c => !Place.isBreak c
      let (b, below) := (p.advance line.length).takeBreak
      let (_, later, next) ← breaks (some indent) (below.rest.length + 1) 0 below []
      lines folded indent fuel next (done ++ joint ++ trail ++ line) b later blank

/-- A block scalar; the place is at the indicator, `parent` is the surrounding indentation. -/
def scan (folded : Bool) (parent : Int) (p : Place) : Option (String × Place) := do
  let (chomp, width, p) ← marks p.next
  let p := p.skipWhile Place.isSpace
  let p := if p.ahead '#' then p.skipWhile fun c => !Place.isBreak c else p
  if !p.atLineEnd then none
  let p := p.takeBreak.2
  let fixed := width.map fun n => if 0 ≤ parent then parent.toNat + n else n
  let (widest, trail, p) ← breaks fixed (p.rest.length + 1) 0 p []
  let indent := fixed.getD (max widest (max (parent + 1).toNat 1))
  let (text, lead, trail, p) ← lines folded indent (p.rest.length + 1) p [] [] trail false
  let ending := match chomp with
    | .strip => []
    | .clip => lead
    | .keep => lead ++ trail
  return (String.ofList (text ++ ending), p)

end Block

end MockApi.Yaml
