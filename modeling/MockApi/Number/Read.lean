import MockApi.Number.Double

/-! # Reading numbers

Unsigned digit strings in a radix, and decimal numbers with fraction and exponent. A decimal is read
as the nearest double; exponents beyond every double give zero or infinity without computing the
power.
-/

namespace MockApi

/-- The value of a digit below thirty six, letters of either case counting from ten. -/
def digitValue? (c : Char) : Option Nat :=
  if '0' ≤ c ∧ c ≤ '9' then some (c.toNat - 48)
  else if 'a' ≤ c ∧ c ≤ 'z' then some (c.toNat - 87)
  else if 'A' ≤ c ∧ c ≤ 'Z' then some (c.toNat - 55)
  else none

/-- The value of a non-empty string of digits of one radix. -/
def readRadix? (radix : Nat) (cs : List Char) : Option Nat :=
  if cs.isEmpty then none
  else cs.foldl (fun acc c =>
    acc.bind fun n => (digitValue? c).bind fun d =>
      if d < radix then some (n * radix + d) else none) (some 0)

/-- The value of a non-empty string of decimal digits. -/
def readNat? (cs : List Char) : Option Nat := readRadix? 10 cs

namespace Decimal.Text

/-- An unsigned decimal: whole digits, fraction digits and an exponent. -/
structure Unsigned where
  whole : List Char
  fraction : List Char
  exponent : Int

/-- The nearest double; ten thousand is beyond every exponent that matters. -/
def Unsigned.toFloat (u : Unsigned) : Float :=
  let digits := ((u.whole ++ u.fraction).foldl (fun n c => n * 10 + (c.toNat - 48)) 0)
  let exponent := u.exponent - u.fraction.length
  let leading := exponent + (u.whole ++ u.fraction).length
  if digits = 0 then 0
  else if leading < -400 then 0
  else if 0 ≤ exponent ∧ 400 < exponent then Double.infinity
  else if 0 ≤ exponent then Float.ofScientific digits false exponent.toNat
  else Float.ofScientific digits true (-exponent).toNat

/-- An optional sign and digits after the exponent mark. -/
def exponent? (cs : List Char) : Option Int :=
  match cs with
  | '+' :: rest => (readNat? rest).map Int.ofNat
  | '-' :: rest => (readNat? rest).map fun n => -(n : Int)
  | rest => (readNat? rest).map Int.ofNat

/-- Digits, an optional point with digits, an optional exponent; at least one digit in all. -/
def unsigned? (cs : List Char) : Option Unsigned :=
  let whole := cs.takeWhile Char.isDigit
  let rest := cs.dropWhile Char.isDigit
  let (fraction, rest) := match rest with
    | '.' :: more => (more.takeWhile Char.isDigit, more.dropWhile Char.isDigit)
    | _ => ([], rest)
  if whole.isEmpty && fraction.isEmpty then none
  else match rest with
    | [] => some ⟨whole, fraction, 0⟩
    | c :: more =>
      if c = 'e' ∨ c = 'E' then (exponent? more).map fun e => ⟨whole, fraction, e⟩ else none

/-- A decimal number with an optional sign, or the words for infinity and NaN in any case. -/
def toFloat? (cs : List Char) : Option Float :=
  let (negative, body) := match cs with
    | '-' :: rest => (true, rest)
    | '+' :: rest => (false, rest)
    | _ => (false, cs)
  let word := String.ofList (body.map Char.toLower)
  let magnitude :=
    if word = "inf" ∨ word = "infinity" then some Double.infinity
    else if word = "nan" then some Double.notANumber
    else (unsigned? body).map Unsigned.toFloat
  magnitude.map fun x => if negative then Double.negate x else x

end Decimal.Text

end MockApi
