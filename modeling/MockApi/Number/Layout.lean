import MockApi.Number.Shortest

/-! # Written forms of a decimal

A layout says where positional notation ends and how whole numbers and exponents look. The digits
are the shortest ones; only their arrangement depends on the layout.
-/

namespace MockApi

/-- Decisions of one written form of doubles. -/
structure Layout where
  /-- Whether small and large magnitudes are written with an exponent. -/
  scientific : Bool
  /-- Whether a whole number keeps the fraction `.0`. -/
  keepsPoint : Bool
  /-- Whether a positive exponent has a plus sign. -/
  plusSign : Bool
  positiveInfinity : String
  negativeInfinity : String
  notANumber : String

namespace Layout

/-- Doubles inside JSON text; what is not finite is written as `null`. -/
def json : Layout := ⟨true, true, true, "null", "null", "null"⟩

/-- Doubles inside YAML text. -/
def yaml : Layout := ⟨true, true, false, ".inf", "-.inf", ".nan"⟩

/-- Doubles inside messages and generator calls: no exponent, no idle fraction. -/
def plain : Layout := ⟨false, false, false, "inf", "-inf", "NaN"⟩

/-- Digits with a point, padded with zeros on either side. -/
def positional (l : Layout) (digits : List Char) (exponent : Int) : List Char :=
  if 0 ≤ exponent then
    digits ++ List.replicate exponent.toNat '0' ++ (if l.keepsPoint then ['.', '0'] else [])
  else
    let places := (-exponent).toNat
    if places < digits.length then
      digits.take (digits.length - places) ++ '.' :: digits.drop (digits.length - places)
    else '0' :: '.' :: List.replicate (places - digits.length) '0' ++ digits

/-- One digit, the remaining ones after a point, and the exponent. -/
def exponential (l : Layout) (digits : List Char) (exponent : Int) : List Char :=
  let fraction := digits.drop 1
  let point := if fraction.isEmpty then [] else '.' :: fraction
  let sign := if exponent < 0 then ['-'] else if l.plusSign then ['+'] else []
  digits.take 1 ++ point ++ 'e' :: sign ++ Nat.toDigits 10 exponent.natAbs

/-- Exponents from minus five to fifteen are written positionally. -/
def decimal (l : Layout) (d : Decimal) : List Char :=
  let digits := Nat.toDigits 10 d.digits
  let leading := d.exponent + digits.length - 1
  if l.scientific ∧ d.digits ≠ 0 ∧ (leading < -5 ∨ 16 ≤ leading) then
    l.exponential digits leading
  else l.positional digits d.exponent

/-- The text of a double. -/
def render (l : Layout) (x : Float) : String :=
  match Double.parts? x with
  | some p => String.ofList ((if p.negative then ['-'] else []) ++ l.decimal p.shortest)
  | none =>
    if x > 0 then l.positiveInfinity else if x < 0 then l.negativeInfinity else l.notANumber

end Layout

end MockApi
