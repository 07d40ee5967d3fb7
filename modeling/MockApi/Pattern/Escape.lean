import MockApi.Pattern.Property

/-! # Escapes

What a backslash introduces in a pattern: a character, a class of characters or a position.
-/

namespace MockApi.Pattern

/-- A place in a text. -/
inductive Position where
  | textStart
  | textEnd
  | lineStart
  | lineEnd
  | wordEdge
  | notWordEdge
  | wordStart
  | wordEnd
deriving DecidableEq, Repr

/-- How characters are read at some place of a pattern. -/
structure Manner where
  /-- Letters stand for all their cases. -/
  ignoreCase : Bool
  /-- Classes reach beyond the first 128 code points. -/
  wide : Bool
  /-- Blanks are left out. -/
  spaced : Bool
deriving DecidableEq, Repr

namespace Manner

/-- The class with the cases that count as the same. -/
def fold (m : Manner) (k : CharClass) : CharClass :=
  if !m.ignoreCase then k
  else if m.wide then k.foldCase
  else .ofRanges (k.ranges ++ k.foldAscii.filter fun r => r.2 < 128)

/-- True of the classes that may stand in a pattern. -/
def permits (m : Manner) (k : CharClass) : Bool := m.wide || k.isAscii

/-- Leaves out blanks where they have no meaning, with the comments up to an end of line. -/
def skipFrom : Bool → List Char → List Char
  | _, [] => []
  | true, c :: rest => skipFrom (c != '\n') rest
  | false, c :: rest =>
    if Text.isBlank c then skipFrom false rest
    else if c = '#' then skipFrom true rest
    else c :: rest

/-- Leaves out blanks and comments where they have no meaning. -/
def skip (m : Manner) (cs : List Char) : List Char := if m.spaced then skipFrom false cs else cs

/-- A class among the first 128 code points or, where classes are wide, the wider one. -/
def widen (m : Manner) (ascii : String) (k : CharClass) : CharClass :=
  if m.wide then k else ⟨(asciiRanges? ascii).getD []⟩

/-- The class of a letter after a backslash: digits, blanks or word characters, and with a capital
letter their complement. -/
def letterClass? (m : Manner) : Char → Option CharClass
  | 'd' => some (m.widen "digit" .digit)
  | 'D' => some (m.widen "digit" .digit).complement
  | 's' => some (m.widen "space" .blank)
  | 'S' => some (m.widen "space" .blank).complement
  | 'w' => some (m.widen "word" .word)
  | 'W' => some (m.widen "word" .word).complement
  | _ => none

end Manner

/-- The character with a code point, except for surrogates. -/
def charOf? (n : Nat) : Option Char := if n.isValidChar then some (Char.ofNat n) else none

/-- The text before a closing brace, and the text after it. -/
def braced? : List Char → Option (List Char × List Char)
  | [] => none
  | '\x7d' :: rest => some ([], rest)
  | c :: rest => (braced? rest).map fun (inside, after) => (c :: inside, after)

/-- The character that a number of hexadecimal digits or digits in braces name. -/
def hexChar? (count : Nat) : List Char → Option (Char × List Char)
  | '\x7b' :: rest => do
    let (digits, rest) ← braced? rest
    if digits.isEmpty || digits.any (Text.hexValue? · |>.isNone) then none
    return (← charOf? (Text.ofHex digits), rest)
  | cs => do
    let digits := cs.take count
    if digits.length ≠ count || digits.any (Text.hexValue? · |>.isNone) then none
    return (← charOf? (Text.ofHex digits), cs.drop count)

/-- The property class after the letter that introduces it: one letter or a name in braces. -/
def readProperty? : List Char → Option (CharClass × List Char)
  | '\x7b' :: rest => do
    let (name, rest) ← braced? rest
    return (← propertyClass? name, rest)
  | '\\' :: _ => none
  | c :: rest => (propertyClass? [c]).map (·, rest)
  | [] => none

/-- What an escape stands for. -/
inductive Escape where
  | char (c : Char)
  | cls (k : CharClass)
  | position (p : Position)

namespace Escape

/-- A position of words named in braces. -/
def namedEdge? (name : List Char) : Option Position :=
  match String.ofList name with
  | "start" | "start-half" => some .wordStart
  | "end" | "end-half" => some .wordEnd
  | _ => none

/-- The edge of a word, of a kind that braces can name. -/
def readEdge? : List Char → Option (Escape × List Char)
  | '\x7b' :: rest =>
    if rest.head?.any (fun c => c.isAlpha || c = '-') then do
      let (name, after) ← braced? rest
      return (.position (← namedEdge? name), after)
    else some (.position .wordEdge, '\x7b' :: rest)
  | cs => some (.position .wordEdge, cs)

/-- Characters with an escape of their own. -/
def control? : Char → Option Char
  | 'a' => some '\x07'
  | 'f' => some '\x0c'
  | 't' => some '\t'
  | 'n' => some '\n'
  | 'r' => some '\r'
  | 'v' => some '\x0b'
  | _ => none

/-- Reads the escape after a backslash. -/
def read? (m : Manner) : List Char → Option (Escape × List Char)
  | [] => none
  | 'x' :: rest => do
    let (c, after) ← hexChar? 2 rest
    if !m.wide && rest.head? ≠ some '\x7b' && 128 ≤ c.toNat then none
    return (.char c, after)
  | 'u' :: rest => (hexChar? 4 rest).map fun (c, after) => (.char c, after)
  | 'U' :: rest => (hexChar? 8 rest).map fun (c, after) => (.char c, after)
  | 'p' :: rest => do
    let (k, after) ← readProperty? rest
    if m.wide then return (.cls (m.fold k), after) else none
  | 'P' :: rest => do
    let (k, after) ← readProperty? rest
    if m.wide then return (.cls (m.fold k).complement, after) else none
  | 'A' :: rest => some (.position .textStart, rest)
  | 'z' :: rest => some (.position .textEnd, rest)
  | 'b' :: rest => readEdge? rest
  | 'B' :: rest => some (.position .notWordEdge, rest)
  | '<' :: rest => some (.position .wordStart, rest)
  | '>' :: rest => some (.position .wordEnd, rest)
  | c :: rest =>
    match m.letterClass? c, control? c with
    | some k, _ => some (.cls k, rest)
    | none, some d => some (.char d, rest)
    | none, none =>
      if c.toNat < 128 && !c.isAlphanum then some (.char c, rest) else none

end Escape
end MockApi.Pattern
