import MockApi.Json.Printer
import MockApi.Text.Blank
import MockApi.Yaml.Scalar

/-! # YAML text

A value is written in block style, two spaces to a level; a list inside a map is not moved in. Texts
are plain where they can be: quoted once when they would be read as something else or hold a mark of
the format, quoted twice with escapes when a character cannot stand for itself, and written line by
line when they have more than one line.
-/

namespace MockApi.Yaml

/-- What matters about a text for the way in which it is written. -/
structure Traits where
  /-- Something in it has a meaning of its own. -/
  marked : Bool
  /-- Blanks or line breaks at its ends. -/
  edged : Bool
  /-- A space at its end. -/
  spaceLast : Bool
  breaks : Bool
  /-- A line that starts with a space. -/
  spaceAfterBreak : Bool
  /-- A line that ends with a space. -/
  spaceBeforeBreak : Bool
  /-- A character that needs an escape. -/
  special : Bool
deriving DecidableEq, Repr

namespace Printer

/-- Line breaks. -/
def isBreak (c : Char) : Bool :=
  c = '\n' || c = '\r' || c.toNat = 0x85 || c.toNat = 0x2028 || c.toNat = 0x2029

/-- Characters that can stand for themselves. -/
def isPrintable (c : Char) : Bool :=
  let n := c.toNat
  n = 10 || (0x20 ≤ n && n ≤ 0x7E) || (0xA0 ≤ n && n ≤ 0xD7FF) ||
    (0xE000 ≤ n && n ≤ 0xFFFD && n ≠ 0xFEFF)

/-- A blank, a line break or the end of a text. -/
def endsWord (c : Option Char) : Bool :=
  match c with
  | some c => c = ' ' || c = '\t' || isBreak c
  | none => true

/-- Characters with a meaning at the start of a text. -/
def startMarks : List Char := "#,[]\x7b\x7d&*!|>'\"%@\x60".toList

/-- True when the first character, with what follows it, has a meaning at the start of a text. -/
def marksStart (c : Char) (next : Option Char) : Bool :=
  startMarks.contains c || ((c = '?' || c = ':' || c = '-') && endsWord next)

/-- True when a character has a meaning inside of a text, between its neighbours. -/
def marksInside (before c : Char) (next : Option Char) : Bool :=
  (c = ':' && endsWord next) || (c = '#' && endsWord (some before))

/-- True when some character after the first has a meaning. -/
def anyInside : Char → List Char → Bool
  | _, [] => false
  | before, c :: rest => marksInside before c rest.head? || anyInside c rest

/-- True when a character of one class stands directly before one of another. -/
def anyPair (p q : Char → Bool) : List Char → Bool
  | a :: b :: rest => (p a && q b) || anyPair p q (b :: rest)
  | _ => false

/-- The traits of a text. -/
def traits (cs : List Char) : Traits where
  marked := "---".toList.isPrefixOf cs || "...".toList.isPrefixOf cs ||
    match cs with
    | [] => false
    | c :: rest => marksStart c rest.head? || anyInside c rest
  edged := (cs.head?.toList ++ cs.getLast?.toList).any fun c => c = ' ' || isBreak c
  spaceLast := cs.getLast? = some ' '
  breaks := cs.any isBreak
  spaceAfterBreak := anyPair isBreak (· = ' ') cs
  spaceBeforeBreak := anyPair (· = ' ') isBreak cs
  special := !cs.all isPrintable

/-- True of texts that would be read as something else. -/
def isAmbiguous (s : String) : Bool :=
  Scalar.isZeroPadded s.toList ||
    match Scalar.ofPlain s with
    | .text => false
    | _ => true

/-- An upper case hexadecimal number of some digits. -/
def hexText : Nat → Nat → List Char
  | 0, _ => []
  | width + 1, n => hexText width (n / 16) ++ [(Json.hexDigit (n % 16)).toUpper]

/-- The letter that stands for a character after a backslash. -/
def escapeLetter? (c : Char) : Option Char :=
  match c.toNat with
  | 0 => some '0'
  | 7 => some 'a'
  | 8 => some 'b'
  | 9 => some 't'
  | 10 => some 'n'
  | 11 => some 'v'
  | 12 => some 'f'
  | 13 => some 'r'
  | 27 => some 'e'
  | 34 => some '"'
  | 92 => some '\\'
  | 0x85 => some 'N'
  | 0x2028 => some 'L'
  | 0x2029 => some 'P'
  | _ => none

/-- A character in a text quoted twice. -/
def escaped (c : Char) : List Char :=
  match escapeLetter? c with
  | some letter => ['\\', letter]
  | none =>
    if isPrintable c then [c]
    else if c.toNat < 256 then '\\' :: 'x' :: hexText 2 c.toNat
    else if c.toNat < 65536 then '\\' :: 'u' :: hexText 4 c.toNat
    else '\\' :: 'U' :: hexText 8 c.toNat

/-- A text quoted twice. -/
def doubleQuoted (s : String) : String :=
  "\"" ++ String.ofList (s.toList.flatMap escaped) ++ "\""

/-- A text quoted once: a quote inside is written twice. -/
def singleQuoted (s : String) : String :=
  "'" ++ String.ofList (s.toList.flatMap fun c => if c = '\'' then ['\'', '\''] else [c]) ++ "'"

/-- Spaces. -/
def spaces (n : Nat) : String := String.ofList (List.replicate n ' ')

/-- How the line breaks at the end of a text are marked: none, one, or more than one. -/
def endMark (cs : List Char) : String :=
  match cs.reverse with
  | [] => "-"
  | c :: rest =>
    if !isBreak c then "-"
    else match rest with
      | [] => "+"
      | d :: _ => if isBreak d then "+" else ""

/-- Characters of lines, each line that is not empty moved in. The flag tells whether a line
starts. -/
def movedIn (indent : Nat) : Bool → List Char → List Char
  | _, [] => []
  | start, c :: rest =>
    if isBreak c then c :: movedIn indent true rest
    else (if start then List.replicate indent ' ' else []) ++ c :: movedIn indent false rest

/-- A text line by line. -/
def lineByLine (indent : Nat) (s : String) : String :=
  let cs := s.toList
  let hint := if cs.head?.any fun c => c = ' ' || isBreak c then "2" else ""
  "|" ++ hint ++ endMark cs ++ "\n" ++ String.ofList (movedIn indent true cs)

/-- A text as a value at a level, or, when `short` holds, as a key in one line. -/
def text (short : Bool) (indent : Nat) (s : String) : String :=
  let t := traits s.toList
  let unquotable := t.spaceBeforeBreak || t.special
  if s.toList.contains '\n' then
    if short || unquotable || t.spaceLast then doubleQuoted s else lineByLine indent s
  else if unquotable || t.spaceAfterBreak then doubleQuoted s
  else if isAmbiguous s || t.edged || t.breaks || t.marked then singleQuoted s
  else s

/-- True of keys that stand in one line with their value. -/
def isShortKey (key : String) : Bool := !key.toList.any isBreak && key.utf8ByteSize ≤ 128

/-- A piece with the break of its last line, which a text written line by line may bring. -/
def lineEnded (piece : String) : String :=
  if piece.toList.getLast?.any isBreak then piece else piece ++ "\n"

/-- Pieces on lines of a level. -/
def onLines (indent : Nat) (pieces : List String) : String :=
  Json.joinWith (spaces indent) (pieces.map lineEnded)

mutual

/-- A value that follows a dash or a mark on the same line; `indent` is the level of its own
lines. -/
def compact (indent : Nat) : Json → String
  | .null => "null"
  | .bool true => "true"
  | .bool false => "false"
  | .number (.integer i) => toString i
  | .number (.double x) => Layout.yaml.render x
  | .string s => text false indent s
  | .array [] => "[]"
  | .array (x :: rest) => onLines indent (dashed indent (x :: rest))
  | .object [] => "\x7b\x7d"
  | .object (m :: rest) => onLines indent (entries indent (m :: rest))

/-- Items behind dashes. -/
def dashed (indent : Nat) : List Json → List String
  | [] => []
  | x :: rest => ("- " ++ compact (indent + 2) x) :: dashed indent rest

/-- Entries of a map. -/
def entries (indent : Nat) : List (String × Json) → List String
  | [] => []
  | (key, x) :: rest =>
    (if isShortKey key then text true (indent + 2) key ++ ":" ++ after indent x
    else lineEnded ("? " ++ text false (indent + 2) key) ++ spaces indent ++ ": " ++
      compact (indent + 2) x) :: entries indent rest

/-- A value after a key and its colon. -/
def after (indent : Nat) : Json → String
  | .array (x :: rest) => "\n" ++ spaces indent ++ onLines indent (dashed indent (x :: rest))
  | .object (m :: rest) =>
    "\n" ++ spaces (indent + 2) ++ onLines (indent + 2) (entries (indent + 2) (m :: rest))
  | .null => " null"
  | .bool true => " true"
  | .bool false => " false"
  | .number (.integer i) => " " ++ toString i
  | .number (.double x) => " " ++ Layout.yaml.render x
  | .string s => " " ++ text false (indent + 2) s
  | .array [] => " []"
  | .object [] => " \x7b\x7d"

end

end Printer

/-- The YAML text of a value. -/
def print (x : Json) : String := Printer.lineEnded (Printer.compact 0 x)

end MockApi.Yaml
