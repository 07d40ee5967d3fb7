import MockApi.Json.Value
import MockApi.Number.Read

/-! # JSON text as a tree with positions

Reading keeps everything the text says: duplicate members, the place where each value ends, numbers
too large for a double and strings that spell no characters. What cannot be read ends the tree; the
containers around it stay open, and the fault tells what was met and where.
-/

namespace MockApi.Json

/-- A place in a text: lines count from one, columns count bytes. -/
structure Mark where
  line : Nat
  column : Nat
deriving DecidableEq, Repr

/-- Why a text is not JSON. -/
inductive FaultKind where
  | endInList
  | endInObject
  | endInString
  | endInValue
  | expectedColon
  | expectedListEnd
  | expectedObjectEnd
  | expectedIdent
  | expectedValue
  | invalidEscape
  | invalidNumber
  | numberOutOfRange
  | controlCharacter
  | keyNotString
  | loneSurrogate
  | trailingComma
  | trailingCharacters
  | brokenHexEscape
deriving DecidableEq, Repr

/-- The wording of a fault. -/
def FaultKind.message : FaultKind → String
  | .endInList => "EOF while parsing a list"
  | .endInObject => "EOF while parsing an object"
  | .endInString => "EOF while parsing a string"
  | .endInValue => "EOF while parsing a value"
  | .expectedColon => "expected `:`"
  | .expectedListEnd => "expected `,` or `]`"
  | .expectedObjectEnd => "expected `,` or `\x7d`"
  | .expectedIdent => "expected ident"
  | .expectedValue => "expected value"
  | .invalidEscape => "invalid escape"
  | .invalidNumber => "invalid number"
  | .numberOutOfRange => "number out of range"
  | .controlCharacter => "control character (\\u0000-\\u001F) found while parsing a string"
  | .keyNotString => "key must be a string"
  | .loneSurrogate => "lone leading surrogate in hex escape"
  | .trailingComma => "trailing comma"
  | .trailingCharacters => "trailing characters"
  | .brokenHexEscape => "unexpected end of hex escape"

/-- A fault and its place. -/
structure Fault where
  kind : FaultKind
  mark : Mark
deriving DecidableEq, Repr

/-- What is left of a text and where it starts. -/
structure Cursor where
  rest : List Char
  mark : Mark

namespace Cursor

/-- The start of a text. -/
def start (s : String) : Cursor := ⟨s.toList, ⟨1, 0⟩⟩

/-- The mark after one character. -/
def stepMark (m : Mark) (c : Char) : Mark :=
  if c = '\n' then ⟨m.line + 1, 0⟩ else ⟨m.line, m.column + c.utf8Size⟩

/-- Passes one character. -/
def next (c : Cursor) : Cursor :=
  match c.rest with
  | [] => c
  | x :: rest => ⟨rest, stepMark c.mark x⟩

/-- Passes characters of a class. -/
def skipWhile (p : Char → Bool) : List Char → Mark → Cursor
  | [], m => ⟨[], m⟩
  | x :: rest, m => if p x then skipWhile p rest (stepMark m x) else ⟨x :: rest, m⟩

/-- Passes the blanks between tokens. -/
def blanks (c : Cursor) : Cursor :=
  skipWhile (fun x => x == ' ' || x == '\n' || x == '\t' || x == '\r') c.rest c.mark

/-- A fault of the character just passed. -/
def fault (c : Cursor) (kind : FaultKind) : Fault := ⟨kind, c.mark⟩

/-- A fault of the character ahead, one byte further unless the text has ended. -/
def faultAhead (c : Cursor) (kind : FaultKind) : Fault :=
  match c.rest with
  | [] => ⟨kind, c.mark⟩
  | '\n' :: _ => ⟨kind, ⟨c.mark.line + 1, 0⟩⟩
  | _ => ⟨kind, ⟨c.mark.line, c.mark.column + 1⟩⟩

end Cursor

/-- A string as read: its characters, or the fault in its escapes. -/
abbrev Spelling := Except Fault String

/-- A JSON text as a tree. `stop` is the mark after a scalar, `start` the mark before a container
and `stop` the one after it; an open container is one that the text breaks off. The mark of a member
is the one before its colon. -/
inductive Source where
  | null (stop : Mark)
  | bool (stop : Mark) (value : Bool)
  | number (stop : Mark) (value : Option Number)
  | string (stop : Mark) (value : Spelling)
  | list (start stop : Mark) (items : List Source) (closed : Bool)
  | object (start stop : Mark) (members : List ((Mark × Spelling) × Source)) (closed : Bool)
  | broken
deriving Inhabited

namespace Source

/-- Powers of ten as doubles. -/
def powerOfTen (n : Nat) : Float := Float.ofScientific 1 false n

/-- Scales a significand by a power of ten, in steps that stay inside the double range. -/
def scale : Nat → Float → Int → Option Float
  | 0, _, _ => none
  | fuel + 1, x, exponent =>
    if exponent.natAbs ≤ 308 then
      if 0 ≤ exponent then
        let y := x * powerOfTen exponent.toNat
        if y.isFinite then some y else none
      else some (x / powerOfTen exponent.natAbs)
    else if x == 0 then some x
    else if 0 ≤ exponent then none
    else scale fuel (x / powerOfTen 308) (exponent + 308)

/-- The double of a significand and an exponent. Below the smallest double the result is zero after
a few steps, so very small exponents are cut off. -/
def toDouble (negative : Bool) (significand : Nat) (exponent : Int) : Option Float :=
  (scale 5 (Float.ofNat significand) (max exponent (-1300))).map fun x =>
    if negative then Double.negate x else x

/-- The largest significand that is kept exactly. -/
def significandLimit : Nat := twoTo 64

/-- Adds digits to a significand while it fits; gives the digits that did not fit. -/
def accumulate : Nat → List Char → Nat × List Char
  | n, [] => (n, [])
  | n, c :: rest =>
    let m := n * 10 + (c.toNat - 48)
    if m < significandLimit then accumulate m rest else (n, c :: rest)

/-- The exponent after the mark; the value is cut off far outside the double range. -/
def exponentValue (negative : Bool) (digits : List Char) : Int :=
  let n : Int := min (digits.foldl (fun n c => min (n * 10 + (c.toNat - 48)) 1000000) 0) 1000000
  if negative then -n else n

/-- The number that a sign, whole digits, fraction digits and an exponent spell. Without fraction
and exponent it is an integer when it fits 64 bits and is not a negative zero. -/
def numberOf (negative : Bool) (whole : List Char) (fraction : Option (List Char))
    (exponent : Option Int) : Option Number :=
  let (significand, left) := accumulate 0 whole
  if left.isEmpty && fraction.isNone && exponent.isNone then
    if !negative then some (.integer significand)
    else if significand ≠ 0 ∧ significand ≤ twoTo 63 then some (.integer (-(significand : Int)))
    else some (.double (Double.negate (Float.ofNat significand)))
  else
    let (significand, dropped) := accumulate significand (fraction.getD [])
    let places := (fraction.getD []).length - dropped.length
    let shift : Int := left.length - places + exponent.getD 0
    if significand = 0 then some (.double (if negative then Double.negate 0 else 0))
    else (toDouble negative significand shift).map .double

/-- The digits ahead and the cursor after them. -/
def digits (c : Cursor) : List Char × Cursor :=
  (c.rest.takeWhile Char.isDigit, Cursor.skipWhile Char.isDigit c.rest c.mark)

/-- The exponent part of a number, when there is one. -/
def readExponent (c : Cursor) : Except Fault (Option Int × Cursor) :=
  match c.rest with
  | mark :: _ =>
    if mark = 'e' ∨ mark = 'E' then
      let c := c.next
      let (negative, c) := match c.rest with
        | '+' :: _ => (false, c.next)
        | '-' :: _ => (true, c.next)
        | _ => (false, c)
      let (ds, after) := digits c
      match c.rest with
      | [] => .error (c.fault .endInValue)
      | _ =>
        if ds.isEmpty then .error (c.next.fault .invalidNumber)
        else .ok (some (exponentValue negative ds), after)
    else .ok (none, c)
  | [] => .ok (none, c)

/-- The fraction part of a number, when there is one. -/
def readFraction (c : Cursor) : Except Fault (Option (List Char) × Cursor) :=
  match c.rest with
  | '.' :: _ =>
    let c := c.next
    let (ds, after) := digits c
    if ds.isEmpty then
      .error (c.faultAhead (if c.rest.isEmpty then .endInValue else .invalidNumber))
    else .ok (some ds, after)
  | _ => .ok (none, c)

/-- A number; the cursor is after the sign. -/
def readNumber (negative : Bool) (c : Cursor) : Except Fault (Option Number × Cursor) := do
  let (whole, after) := digits c
  match whole with
  | [] => .error (if c.rest.isEmpty then c.fault .endInValue else c.next.fault .invalidNumber)
  | '0' :: _ :: _ => .error (c.next.faultAhead .invalidNumber)
  | _ =>
    let (fraction, after) ← readFraction after
    let (exponent, after) ← readExponent after
    return (numberOf negative whole fraction exponent, after)

/-- Four hexadecimal digits. -/
def readHex (c : Cursor) : Except Fault (Nat × Cursor) :=
  match c.rest with
  | a :: b :: d :: e :: _ =>
    match readRadix? 16 [a, b, d, e] with
    | some n => .ok (n, c.next.next.next.next)
    | none => .error (c.next.next.next.next.fault .invalidEscape)
  | _ => .error ((c.rest.foldl (fun c _ => c.next) c).fault .endInString)

/-- A `\u` escape; the cursor is after the letter. The outcome tells the character or the fault that
matters when the string is looked at. -/
def readUnicodeEscape (c : Cursor) : Except Fault (Except Fault Char × Cursor) := do
  let (n, c) ← readHex c
  if 0xDC00 ≤ n ∧ n ≤ 0xDFFF then return (.error (c.fault .loneSurrogate), c)
  else if 0xD800 ≤ n ∧ n ≤ 0xDBFF then
    match c.rest with
    | '\\' :: 'u' :: _ =>
      match readHex c.next.next with
      | .error f => .error f
      | .ok (low, after) =>
        if 0xDC00 ≤ low ∧ low ≤ 0xDFFF then
          return (.ok (Char.ofNat (0x10000 + (n - 0xD800) * 0x400 + (low - 0xDC00))), after)
        else return (.error (after.fault .loneSurrogate), c)
    | '\\' :: _ => return (.error (c.next.next.fault .brokenHexEscape), c)
    | _ => return (.error (c.next.fault .brokenHexEscape), c)
  else return (.ok (Char.ofNat n), c)

/-- The rest of a string up to its closing quote. The first fault of an escape is kept, and reading
goes on. -/
def readString : Nat → Cursor → List Char → Option Fault → Except Fault (Spelling × Cursor)
  | 0, c, _, _ => .error (c.fault .endInString)
  | fuel + 1, c, done, bad =>
    match c.rest with
    | [] => .error (c.fault .endInString)
    | '"' :: _ =>
      .ok (match bad with | some f => .error f | none => .ok (String.ofList done.reverse), c.next)
    | '\\' :: _ =>
      let c := c.next
      let plain (x : Char) := readString fuel c.next (x :: done) bad
      match c.rest with
      | [] => .error (c.fault .endInString)
      | '"' :: _ => plain '"'
      | '\\' :: _ => plain '\\'
      | '/' :: _ => plain '/'
      | 'b' :: _ => plain (Char.ofNat 8)
      | 'f' :: _ => plain (Char.ofNat 12)
      | 'n' :: _ => plain '\n'
      | 'r' :: _ => plain '\r'
      | 't' :: _ => plain '\t'
      | 'u' :: _ =>
        match readUnicodeEscape c.next with
        | .error f => .error f
        | .ok (.ok x, after) => readString fuel after (x :: done) bad
        | .ok (.error f, after) => readString fuel after done (bad.or (some f))
      | _ => .error (c.next.fault .invalidEscape)
    | x :: _ =>
      if x.toNat < 32 then .error (c.next.fault .controlCharacter)
      else readString fuel c.next (x :: done) bad

/-- The remaining letters of a word such as `null`. -/
def readWord : List Char → Cursor → Except Fault Cursor
  | [], c => .ok c
  | x :: word, c =>
    match c.rest with
    | [] => .error (c.fault .endInValue)
    | y :: _ => if x = y then readWord word c.next else .error (c.next.fault .expectedIdent)

/-- A tree read so far, and either the cursor after it or the fault that ended it. -/
abbrev Outcome (α : Type) := α × Except Fault Cursor

mutual

/-- One value. -/
def readValue : Nat → Cursor → Outcome Source
  | 0, c => (.broken, .error (c.fault .endInValue))
  | fuel + 1, c =>
    let c := c.blanks
    let word (letters : List Char) (make : Mark → Source) : Outcome Source :=
      match readWord letters c.next with
      | .ok after => (make after.mark, .ok after)
      | .error f => (.broken, .error f)
    let number (negative : Bool) (c : Cursor) : Outcome Source :=
      match readNumber negative c with
      | .ok (n, after) => (.number after.mark n, .ok after)
      | .error f => (.broken, .error f)
    match c.rest with
    | [] => (.broken, .error (c.faultAhead .endInValue))
    | x :: _ =>
      if x = 'n' then word ['u', 'l', 'l'] .null
      else if x = 't' then word ['r', 'u', 'e'] fun m => .bool m true
      else if x = 'f' then word ['a', 'l', 's', 'e'] fun m => .bool m false
      else if x = '-' then number true c.next
      else if x.isDigit then number false c
      else if x = '"' then
        match readString fuel c.next [] none with
        | .ok (s, after) => (.string after.mark s, .ok after)
        | .error f => (.broken, .error f)
      else if x = '[' then
        match readItems fuel c.next true [] with
        | (items, .ok after) => (.list c.mark after.mark items true, .ok after)
        | (items, .error f) => (.list c.mark f.mark items false, .error f)
      else if x = '\x7b' then
        match readMembers fuel c.next true [] with
        | (members, .ok after) => (.object c.mark after.mark members true, .ok after)
        | (members, .error f) => (.object c.mark f.mark members false, .error f)
      else (.broken, .error (c.faultAhead .expectedValue))

/-- The items of a list and its closing bracket. -/
def readItems : Nat → Cursor → Bool → List Source → Outcome (List Source)
  | 0, c, _, done => (done.reverse, .error (c.fault .endInList))
  | fuel + 1, c, first, done =>
    let c := c.blanks
    let item (c : Cursor) : Outcome (List Source) :=
      match readValue fuel c with
      | (x, .ok after) => readItems fuel after false (x :: done)
      | (x, .error f) => ((x :: done).reverse, .error f)
    match c.rest with
    | [] => (done.reverse, .error (c.faultAhead .endInList))
    | ']' :: _ => (done.reverse, .ok c.next)
    | x :: _ =>
      if first then item c
      else if x = ',' then
        let c := c.next.blanks
        match c.rest with
        | [] => (done.reverse, .error (c.faultAhead .endInValue))
        | ']' :: _ => (done.reverse, .error (c.faultAhead .trailingComma))
        | _ => item c
      else (done.reverse, .error (c.faultAhead .expectedListEnd))

/-- The members of an object and its closing brace. -/
def readMembers : Nat → Cursor → Bool → List ((Mark × Spelling) × Source) →
    Outcome (List ((Mark × Spelling) × Source))
  | 0, c, _, done => (done.reverse, .error (c.fault .endInObject))
  | fuel + 1, c, first, done =>
    let c := c.blanks
    let member (c : Cursor) : Outcome (List ((Mark × Spelling) × Source)) :=
      match readString fuel c.next [] none with
      | .error f => (done.reverse, .error f)
      | .ok (key, after) =>
        let colon := after.blanks
        match colon.rest with
        | [] => (done.reverse, .error (colon.faultAhead .endInObject))
        | ':' :: _ =>
          match readValue fuel colon.next with
          | (x, .ok final) => readMembers fuel final false (((colon.mark, key), x) :: done)
          | (x, .error f) => ((((colon.mark, key), x) :: done).reverse, .error f)
        | _ => (done.reverse, .error (colon.faultAhead .expectedColon))
    let key (c : Cursor) : Outcome (List ((Mark × Spelling) × Source)) :=
      match c.rest with
      | [] => (done.reverse, .error (c.faultAhead .endInValue))
      | '"' :: _ => member c
      | '\x7d' :: _ => (done.reverse, .error (c.faultAhead .trailingComma))
      | _ => (done.reverse, .error (c.faultAhead .keyNotString))
    match c.rest with
    | [] => (done.reverse, .error (c.faultAhead .endInObject))
    | '\x7d' :: _ => (done.reverse, .ok c.next)
    | x :: _ =>
      if first then key c
      else if x = ',' then key c.next.blanks
      else (done.reverse, .error (c.faultAhead .expectedObjectEnd))

end

/-- The tree of a text. The fault is present unless one value and blanks are all there is. -/
def read (s : String) : Source × Option Fault :=
  let c := Cursor.start s
  match readValue (2 * c.rest.length + 2) c with
  | (tree, .error f) => (tree, some f)
  | (tree, .ok after) =>
    let after := after.blanks
    if after.rest.isEmpty then (tree, none) else (tree, some (after.faultAhead .trailingCharacters))

end Source

end MockApi.Json
