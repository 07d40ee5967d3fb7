import MockApi.Yaml.Text

/-! # Cutting YAML text into tokens

Indentation opens and closes block collections. A scalar, an alias or a bracket may turn out to be a
key when a colon follows on the same line; until then its place among the tokens is remembered, so
that the key token can be put before it.
-/

namespace MockApi.Yaml

/-- A place among the tokens where a key may have started. -/
structure KeyCandidate where
  /-- Whether the text is wrong unless a colon follows. -/
  required : Bool
  token : Nat
  index : Nat
  line : Nat
  column : Nat

/-- What the lexer knows between two tokens. -/
structure Lexer where
  place : Place
  tokens : Array Token := #[]
  /-- The indentation of the open block collection, minus one outside of all. -/
  indent : Int := -1
  /-- The indentations around it, innermost first. -/
  outer : List Int := []
  keyAllowed : Bool := true
  /-- The key candidate at the current bracket level. -/
  candidate : Option KeyCandidate := none
  /-- The candidates of the levels around it. -/
  levels : List (Option KeyCandidate) := []

namespace Lexer

/-- True inside brackets. -/
def inFlow (l : Lexer) : Bool := !l.levels.isEmpty

/-- Adds a token. -/
def push (l : Lexer) (t : Token) : Lexer := { l with tokens := l.tokens.push t }

/-- Puts a token before the one that had the number. -/
def insert (l : Lexer) (number : Nat) (t : Token) : Lexer :=
  let tokens := l.tokens.toList
  { l with tokens := (tokens.take number ++ t :: tokens.drop number).toArray }

/-- Gives up the key candidate, which is an error when it was required. -/
def dropCandidate (l : Lexer) : Option Lexer :=
  match l.candidate with
  | some k => if k.required then none else some { l with candidate := none }
  | none => some l

/-- Remembers that a key may start here. -/
def saveCandidate (l : Lexer) : Option Lexer :=
  if l.keyAllowed then do
    let cleared ← l.dropCandidate
    let started : KeyCandidate :=
      ⟨!l.inFlow && l.indent == l.place.column, l.tokens.size, l.place.index, l.place.line,
        l.place.column⟩
    return { cleared with candidate := some started }
  else some l

/-- Gives up a candidate that lies on an earlier line or too far back. -/
def expire (l : Lexer) (c : Option KeyCandidate) : Option (Option KeyCandidate) :=
  match c with
  | none => some none
  | some k =>
    if k.line < l.place.line || k.index + 1024 < l.place.index then
      if k.required then none else some none
    else some (some k)

/-- Gives up all candidates that lie too far back. -/
def expireAll (l : Lexer) : Option Lexer := do
  let candidate ← l.expire l.candidate
  let levels ← l.levels.mapM l.expire
  return { l with candidate := candidate, levels := levels }

/-- Closes the block collections indented deeper than the column. -/
def unroll (column : Int) : Nat → Lexer → Lexer
  | 0, l => l
  | fuel + 1, l =>
    if l.inFlow then l
    else if column < l.indent then
      match l.outer with
      | i :: rest => unroll column fuel { l.push .blockEnd with indent := i, outer := rest }
      | [] => { l.push .blockEnd with indent := -1 }
    else l

/-- Opens a block collection at the column, unless one is open there. -/
def roll (l : Lexer) (column : Nat) (before : Option Nat) (t : Token) : Lexer :=
  if !l.inFlow && l.indent < column then
    let opened := { l with outer := l.indent :: l.outer, indent := (column : Int) }
    match before with
    | some n => opened.insert n t
    | none => opened.push t
  else l

/-- Passes blanks, comments and line breaks. After a break a key may start, except inside brackets.
Tabs count as blanks only where no key may start. -/
def skipToToken : Nat → Lexer → Lexer
  | 0, l => l
  | fuel + 1, l =>
    match l.place.rest with
    | [] => l
    | c :: _ =>
      let step (p : Place) : Lexer := skipToToken fuel { l with place := p }
      if c.toNat = 0xFEFF && l.place.column == 0 then step l.place.next
      else if c = ' ' then step l.place.next
      else if c = '\t' && (l.inFlow || !l.keyAllowed) then step l.place.next
      else if c = '#' then step (l.place.skipWhile fun c => !Place.isBreak c)
      else if Place.isBreak c then
        skipToToken fuel
          { l with place := l.place.takeBreak.2, keyAllowed := l.keyAllowed || !l.inFlow }
      else l

/-- A letter, digit, dash or underscore. -/
def isNameChar (c : Char) : Bool := c.isAlphanum || c == '_' || c == '-'

/-- The name after an anchor or alias mark. -/
def anchorName? (p : Place) : Option (String × Place) :=
  let name := p.next.rest.takeWhile isNameChar
  let after := p.advance (name.length + 1)
  let closed := after.endsAt 0 ||
    after.rest.head?.any fun c =>
      c == '?' || c == ':' || c == ',' || c == ']' || c == '\x7d' || c == '%' || c == '@' ||
        c.toNat == 0x60
  if name.isEmpty || !closed then none else some (String.ofList name, after)

/-- A character of a tag; brackets and commas only in some places. -/
def isTagChar (bracketed : Bool) (c : Char) : Bool :=
  isNameChar c || ";/?:@&=+$.%!~*'()".toList.contains c ||
    (bracketed && (c == ',' || c == '[' || c == ']'))

/-- Replaces percent escapes by the characters they encode; only single byte ones are read. -/
def unescapeTag : List Char → Option (List Char)
  | [] => some []
  | '%' :: a :: b :: rest => do
    let n ← readRadix? 16 [a, b]
    if 128 ≤ n then none else (unescapeTag rest).map (Char.ofNat n :: ·)
  | '%' :: _ => none
  | c :: rest => (unescapeTag rest).map (c :: ·)

/-- A tag: its handle and suffix. -/
def tag? (inFlow : Bool) (p : Place) : Option (String × String × Place) := do
  let (handle, suffix, after) ←
    match p.rest.drop 1 with
    | '<' :: rest =>
      let uri := rest.takeWhile (isTagChar true)
      let after := p.advance (uri.length + 2)
      if uri.isEmpty || !after.ahead '>' then none
      else (unescapeTag uri).map fun u => (([] : List Char), u, after.next)
    | rest =>
      let name := rest.takeWhile isNameChar
      match rest.drop name.length with
      | '!' :: more =>
        let suffix := more.takeWhile (isTagChar false)
        if suffix.isEmpty then none
        else (unescapeTag suffix).map fun s =>
          ('!' :: name ++ ['!'], s, p.advance (name.length + 2 + suffix.length))
      | _ =>
        let suffix := rest.takeWhile (isTagChar false)
        (unescapeTag suffix).map fun s =>
          if s.isEmpty then ([], ['!'], p.next) else (['!'], s, p.advance (1 + suffix.length))
  if after.endsAt 0 || (inFlow && after.ahead ',') then
    return (String.ofList handle, String.ofList suffix, after)
  else none

/-- A directive line. -/
def directive? (p : Place) : Option (Token × Place) := do
  let name := p.next.rest.takeWhile isNameChar
  let after := (p.advance (name.length + 1)).skipWhile Place.isSpace
  let finish (t : Token) (p : Place) : Option (Token × Place) :=
    let p := p.skipWhile Place.isSpace
    let p := if p.ahead '#' then p.skipWhile fun c => !Place.isBreak c else p
    if p.atLineEnd then some (t, p) else none
  if name == "YAML".toList then
    let major := after.rest.takeWhile Char.isDigit
    let point := after.advance major.length
    if !point.ahead '.' then none
    let minor := point.next.rest.takeWhile Char.isDigit
    let m ← readNat? major
    let n ← readNat? minor
    if m = 1 ∧ (n = 1 ∨ n = 2) then finish (.version n) (point.advance (minor.length + 1)) else none
  else if name == "TAG".toList then
    match after.rest with
    | '!' :: rest =>
      let word := rest.takeWhile isNameChar
      let closed := (rest.drop word.length).head? == some '!'
      if !closed && !word.isEmpty then none
      let handle := '!' :: word ++ (if closed then ['!'] else [])
      let gap := after.advance handle.length
      if !gap.atSpace then none
      let start := gap.skipWhile Place.isSpace
      let uri := start.rest.takeWhile (isTagChar true)
      let u ← unescapeTag uri
      let stop := start.advance uri.length
      if uri.isEmpty || !stop.endsAt 0 then none
      finish (.tagHandle (String.ofList handle) (String.ofList u)) stop
    | _ => none
  else none

/-- Opens a bracket. -/
def openFlow (l : Lexer) (t : Token) : Option Lexer := do
  let l ← l.saveCandidate
  return { l.push t with
    levels := l.candidate :: l.levels, candidate := none, keyAllowed := true,
    place := l.place.next }

/-- Closes a bracket; one too many is left for the reader of tokens to refuse. -/
def closeFlow (l : Lexer) (t : Token) : Option Lexer := do
  let l ← l.dropCandidate
  let l := { l.push t with keyAllowed := false, place := l.place.next }
  match l.levels with
  | c :: rest => return { l with levels := rest, candidate := c }
  | [] => return l

/-- A dash that starts an entry. -/
def blockEntry (l : Lexer) : Option Lexer := do
  let l ← if l.inFlow then some l
    else if !l.keyAllowed then none
    else some (l.roll l.place.column none .blockListStart)
  let l ← l.dropCandidate
  return { l.push .blockEntry with keyAllowed := true, place := l.place.next }

/-- A question mark that starts a key. -/
def explicitKey (l : Lexer) : Option Lexer := do
  let l ← if l.inFlow then some l
    else if !l.keyAllowed then none
    else some (l.roll l.place.column none .blockMapStart)
  let l ← l.dropCandidate
  return { l.push .key with keyAllowed := !l.inFlow, place := l.place.next }

/-- A colon after a key. -/
def value (l : Lexer) : Option Lexer := do
  match l.candidate with
  | some k =>
    let l := (l.insert k.token .key).roll k.column (some k.token) .blockMapStart
    return { l.push .value with candidate := none, keyAllowed := false, place := l.place.next }
  | none =>
    let l ← if l.inFlow then some l
      else if !l.keyAllowed then none
      else some (l.roll l.place.column none .blockMapStart)
    return { l.push .value with keyAllowed := !l.inFlow, place := l.place.next }

/-- A token that may be a key and after which no key may start. -/
def simple (l : Lexer) (scan : Place → Option (Token × Place)) : Option Lexer := do
  let l ← l.saveCandidate
  let (t, after) ← scan l.place
  return { l.push t with keyAllowed := false, place := after }

/-- The characters that cannot start a plain scalar. -/
def isIndicator (c : Char) : Bool :=
  "-?:,[]\x7b\x7d#&*!|>'\"%@".toList.contains c || c.toNat == 0x60

/-- A plain scalar; after one that spans lines a key may start. -/
def plain (l : Lexer) : Option Lexer := do
  let l ← l.saveCandidate
  let (text, broken, after) ← Plain.scan l.inFlow (l.indent + 1).toNat l.place
  return { l.push (.scalar .plain text) with keyAllowed := broken, place := after }

/-- A mark or directive at the start of a line: all blocks end. -/
def atMargin (l : Lexer) (t : Token) (after : Place) : Option Lexer := do
  let l ← (l.unroll (-1) (l.outer.length + 1)).dropCandidate
  return { l.push t with keyAllowed := false, place := after }

/-- Cuts off the next token. -/
def step (l : Lexer) : Option Lexer := do
  let l := l.skipToToken (l.place.rest.length + 1)
  let l ← l.expireAll
  let l := l.unroll l.place.column (l.outer.length + 1)
  let p := l.place
  match p.rest with
  | [] =>
    let l ← (l.unroll (-1) (l.outer.length + 1)).dropCandidate
    return l.push .streamEnd
  | c :: _ =>
    if p.column = 0 ∧ c = '%' then
      let (t, after) ← directive? p
      l.atMargin t after
    else if p.atDocumentMark then
      l.atMargin (if c = '-' then .documentStart else .documentEnd) (p.advance 3)
    else if c = '[' then l.openFlow .flowListStart
    else if c = '\x7b' then l.openFlow .flowMapStart
    else if c = ']' then l.closeFlow .flowListEnd
    else if c = '\x7d' then l.closeFlow .flowMapEnd
    else if c = ',' then
      let l ← l.dropCandidate
      return { l.push .flowEntry with keyAllowed := true, place := p.next }
    else if c = '-' ∧ p.endsAt 1 then l.blockEntry
    else if c = '?' ∧ (l.inFlow ∨ p.endsAt 1) then l.explicitKey
    else if c = ':' ∧ (l.inFlow ∨ p.endsAt 1) then l.value
    else if c = '*' then
      l.simple fun p => (anchorName? p).map fun (name, after) => (.alias name, after)
    else if c = '&' then
      l.simple fun p => (anchorName? p).map fun (name, after) => (.anchor name, after)
    else if c = '!' then
      l.simple fun p => (tag? l.inFlow p).map fun (h, s, after) => (.tag h s, after)
    else if (c = '|' ∨ c = '>') ∧ !l.inFlow then
      let l ← l.dropCandidate
      let (text, after) ← Block.scan (c == '>') l.indent p
      let style : Node.Style := if c = '|' then .literal else .quoted
      return { l.push (.scalar style text) with keyAllowed := true, place := after }
    else if c = '\'' ∨ c = '"' then
      l.simple fun p =>
        (Quoted.scan (c == '\'') p).map fun (text, after) => (.scalar .quoted text, after)
    else if !isIndicator c || (c = '-' && !(p.rest.drop 1).head?.any Place.isSpace) ||
        (!l.inFlow && (c = '?' || c = ':')) then l.plain
    else none

/-- Cuts a text until its end. -/
def run : Nat → Lexer → Option (Array Token)
  | 0, _ => none
  | fuel + 1, l =>
    match l.step with
    | none => none
    | some next =>
      if next.tokens.back? == some .streamEnd then some next.tokens else run fuel next

end Lexer

/-- The characters that YAML text may hold. -/
def isTextChar (c : Char) : Bool :=
  let n := c.toNat
  n == 9 || n == 10 || n == 13 || (0x20 ≤ n && n ≤ 0x7E) || n == 0x85 || (0xA0 ≤ n && n ≤ 0xD7FF) ||
    (0xE000 ≤ n && n ≤ 0xFFFD) || 0x10000 ≤ n

/-- The tokens of a text. A byte order mark at the start does not count. -/
def tokens? (s : String) : Option (Array Token) :=
  let cs := match s.toList with
    | c :: rest => if c.toNat = 0xFEFF then rest else c :: rest
    | [] => []
  if cs.all isTextChar then Lexer.run (2 * cs.length + 2) { place := ⟨cs, 0, 0, 0⟩ } else none

end MockApi.Yaml
