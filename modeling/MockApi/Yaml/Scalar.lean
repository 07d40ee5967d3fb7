import MockApi.Number.Read

/-! # What a plain YAML scalar means

The core schema: words for null and the booleans, integers in four radixes, decimals with the words
for infinity and NaN. Digits behind a leading zero are text. An integer too large for 64 bits is a
number that no reader takes.
-/

namespace MockApi.Yaml

/-- The meaning of a plain scalar. -/
inductive Scalar where
  | null
  | bool (value : Bool)
  | integer (value : Int)
  | wideInteger
  | double (value : Float)
  | text
deriving Repr

namespace Scalar

/-- The words for null, the empty text apart. -/
def isNullWord (s : String) : Bool := s == "null" || s == "Null" || s == "NULL" || s == "~"

/-- The words for the booleans. -/
def bool? (s : String) : Option Bool :=
  if s == "true" || s == "True" || s == "TRUE" then some true
  else if s == "false" || s == "False" || s == "FALSE" then some false
  else none

/-- A zero followed by digits only, after an optional sign. -/
def isZeroPadded (cs : List Char) : Bool :=
  let body := match cs with
    | '-' :: rest => rest
    | '+' :: rest => rest
    | _ => cs
  match body with
  | '0' :: rest => !rest.isEmpty && rest.all Char.isDigit
  | _ => false

/-- The radix that a two character mark names. -/
def radix? : Char → Option Nat
  | 'x' => some 16
  | 'o' => some 8
  | 'b' => some 2
  | _ => none

/-- Digits of a radix, after a plus sign where decimal digits stand. -/
def digits? (radix : Nat) (cs : List Char) : Option Nat := readRadix? radix cs

/-- A non-negative integer below a limit. -/
def natural? (limit : Nat) (cs : List Char) : Option Nat :=
  let within (n : Option Nat) : Option Nat := n.filter (· < limit)
  let body := match cs with
    | '+' :: rest => rest
    | _ => cs
  let marked := match body with
    | '0' :: mark :: rest => (radix? mark).bind fun r => within (digits? r rest)
    | _ => none
  match marked with
  | some n => some n
  | none =>
    match body with
    | '+' :: _ => none
    | '-' :: _ => none
    | _ => if isZeroPadded cs then none else within (digits? 10 body)

/-- An integer with a minus sign whose absolute value is at most a limit. A number without a sign is
read too. -/
def negative? (limit : Nat) (cs : List Char) : Option Int :=
  let within (n : Option Nat) : Option Int := (n.filter (· ≤ limit)).map fun n => -(n : Int)
  let marked := match cs with
    | '-' :: '0' :: mark :: rest => (radix? mark).bind fun r => within (digits? r rest)
    | _ => none
  match marked with
  | some i => some i
  | none =>
    if isZeroPadded cs then none
    else match cs with
      | '-' :: rest => within (digits? 10 rest)
      | _ => none

/-- A finite decimal, or one of the words for infinity and NaN. -/
def double? (s : String) : Option Float :=
  if s == ".inf" || s == ".Inf" || s == ".INF" || s == "+.inf" || s == "+.Inf" || s == "+.INF" then
    some Double.infinity
  else if s == "-.inf" || s == "-.Inf" || s == "-.INF" then some (Double.negate Double.infinity)
  else if s == ".nan" || s == ".NaN" || s == ".NAN" then some Double.notANumber
  else
    match s.toList with
    | '+' :: '+' :: _ => none
    | '+' :: '-' :: _ => none
    | cs => (Decimal.Text.toFloat? cs).filter Double.isFinite

/-- The meaning of a plain scalar. -/
def ofPlain (s : String) : Scalar :=
  let cs := s.toList
  if cs.isEmpty || isNullWord s then .null
  else match bool? s with
    | some b => .bool b
    | none =>
      match natural? (twoTo 64) cs with
      | some n => .integer n
      | none =>
        match negative? (twoTo 63) cs with
        | some i => .integer i
        | none =>
          if (natural? (twoTo 128) cs).isSome || (negative? (twoTo 127) cs).isSome then .wideInteger
          else if isZeroPadded cs then .text
          else match double? s with
            | some x => .double x
            | none => .text

end Scalar

end MockApi.Yaml
