import MockApi.Node.Basic

/-! # Tokens of YAML text

A YAML text is first cut into tokens. Block collections have no closing marks of their own, so their
starts and ends are tokens that the indentation gives rise to.
-/

namespace MockApi.Yaml

/-- A token. -/
inductive Token where
  | version (minor : Nat)
  | tagHandle (handle uri : String)
  | documentStart
  | documentEnd
  | blockListStart
  | blockMapStart
  | blockEnd
  | flowListStart
  | flowListEnd
  | flowMapStart
  | flowMapEnd
  | blockEntry
  | flowEntry
  | key
  | value
  | alias (name : String)
  | anchor (name : String)
  | tag (handle suffix : String)
  | scalar (style : Node.Style) (text : String)
  | streamEnd
deriving DecidableEq, Repr

/-- The place in a text: the characters left, and where they are. -/
structure Place where
  rest : List Char
  index : Nat
  line : Nat
  column : Nat

namespace Place

/-- A line break. -/
def isBreak (c : Char) : Bool :=
  c == '\r' || c == '\n' || c.toNat == 0x85 || c.toNat == 0x2028 || c.toNat == 0x2029

/-- A blank inside a line. -/
def isSpace (c : Char) : Bool := c == ' ' || c == '\t'

/-- True when the character `n` ahead is a blank, a break or the end. -/
def endsAt (p : Place) (n : Nat) : Bool :=
  match p.rest.drop n with
  | [] => true
  | c :: _ => isBreak c || isSpace c

/-- True when a break or the end is ahead. -/
def atLineEnd (p : Place) : Bool := p.rest.head?.all isBreak

/-- True when a line break is ahead. -/
def atBreak (p : Place) : Bool := p.rest.head?.any isBreak

/-- True when a blank inside a line is ahead. -/
def atSpace (p : Place) : Bool := p.rest.head?.any isSpace

/-- True when the given character is ahead. -/
def ahead (p : Place) (c : Char) : Bool := p.rest.head? == some c

/-- Passes one character that is no line break. -/
def next (p : Place) : Place :=
  { p with rest := p.rest.drop 1, index := p.index + 1, column := p.column + 1 }

/-- Passes characters that are no line breaks. -/
def advance (p : Place) (n : Nat) : Place :=
  { p with rest := p.rest.drop n, index := p.index + n, column := p.column + n }

/-- Passes a line break, both characters of a pair, and tells what it stands for. -/
def takeBreak (p : Place) : List Char × Place :=
  let below (n : Nat) : Place := ⟨p.rest.drop n, p.index + n, p.line + 1, 0⟩
  match p.rest with
  | '\r' :: '\n' :: _ => (['\n'], below 2)
  | c :: _ =>
    if c = '\r' ∨ c = '\n' ∨ c.toNat = 0x85 then (['\n'], below 1)
    else if isBreak c then ([c], below 1)
    else ([], p)
  | [] => ([], p)

/-- Passes characters of a class, which holds no line break. -/
def skipWhile (inside : Char → Bool) (p : Place) : Place :=
  p.advance (p.rest.takeWhile inside).length

/-- True at a line that starts with three dashes or three dots and a blank. -/
def atDocumentMark (p : Place) : Bool :=
  p.column == 0 && p.endsAt 3 &&
    (p.rest.take 3 == ['-', '-', '-'] || p.rest.take 3 == ['.', '.', '.'])

end Place

end MockApi.Yaml
