import MockApi.Json.Value
import MockApi.Number.Layout

/-! # JSON text

The compact form has no blanks; the indented form has two spaces to a level and one member or item
to a line. Only quotes, backslashes and control characters are escaped.
-/

namespace MockApi.Json

/-- The lower case hexadecimal digit of a number below sixteen. -/
def hexDigit (n : Nat) : Char := Char.ofNat (if n < 10 then 48 + n else 87 + n)

/-- The escaped form of one character of a string. -/
def escapeChar (c : Char) : List Char :=
  match c with
  | '"' => ['\\', '"']
  | '\\' => ['\\', '\\']
  | '\n' => ['\\', 'n']
  | '\r' => ['\\', 'r']
  | '\t' => ['\\', 't']
  | c =>
    if c.toNat = 8 then ['\\', 'b']
    else if c.toNat = 12 then ['\\', 'f']
    else if c.toNat < 32 then
      ['\\', 'u', '0', '0', hexDigit (c.toNat / 16), hexDigit (c.toNat % 16)]
    else [c]

/-- A string in quotes. -/
def quote (s : String) : String := String.ofList ('"' :: s.toList.flatMap escapeChar ++ ['"'])

/-- The text of a number. -/
def Number.render : Number → String
  | .integer i => toString i
  | .double x => Layout.json.render x

/-- Pieces with a separator between them. -/
def joinWith (separator : String) : List String → String
  | [] => ""
  | [s] => s
  | s :: rest => s ++ separator ++ joinWith separator rest

mutual

/-- The text without blanks. -/
def compact : Json → String
  | .null => "null"
  | .bool true => "true"
  | .bool false => "false"
  | .number n => n.render
  | .string s => quote s
  | .array items => "[" ++ joinWith "," (compactItems items) ++ "]"
  | .object members => "\x7b" ++ joinWith "," (compactMembers members) ++ "\x7d"

/-- The compact texts of items. -/
def compactItems : List Json → List String
  | [] => []
  | x :: rest => compact x :: compactItems rest

/-- The compact texts of members. -/
def compactMembers : List (String × Json) → List String
  | [] => []
  | (key, x) :: rest => (quote key ++ ":" ++ compact x) :: compactMembers rest

end

/-- A line break and the blanks of a level. -/
def lineBreak (level : Nat) : String := String.ofList ('\n' :: List.replicate (2 * level) ' ')

mutual

/-- The indented text of a value that starts at some level. -/
def prettyAt (level : Nat) : Json → String
  | .array [] => "[]"
  | .object [] => "\x7b\x7d"
  | .array (x :: rest) =>
    "[" ++ lineBreak (level + 1) ++
      joinWith ("," ++ lineBreak (level + 1))
        (prettyAt (level + 1) x :: prettyItems (level + 1) rest) ++
      lineBreak level ++ "]"
  | .object ((key, x) :: rest) =>
    "\x7b" ++ lineBreak (level + 1) ++
      joinWith ("," ++ lineBreak (level + 1))
        ((quote key ++ ": " ++ prettyAt (level + 1) x) :: prettyMembers (level + 1) rest) ++
      lineBreak level ++ "\x7d"
  | .null => "null"
  | .bool true => "true"
  | .bool false => "false"
  | .number n => n.render
  | .string s => quote s

/-- The indented texts of items. -/
def prettyItems (level : Nat) : List Json → List String
  | [] => []
  | x :: rest => prettyAt level x :: prettyItems level rest

/-- The indented texts of members. -/
def prettyMembers (level : Nat) : List (String × Json) → List String
  | [] => []
  | (key, x) :: rest => (quote key ++ ": " ++ prettyAt level x) :: prettyMembers level rest

end

/-- The indented text. -/
def pretty (x : Json) : String := prettyAt 0 x

end MockApi.Json
