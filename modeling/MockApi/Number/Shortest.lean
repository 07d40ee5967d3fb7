import MockApi.Number.Double

/-! # Shortest decimal digits of a double

The decimal written for a double is the one with the fewest digits that reads back as that double,
and among those the nearest. Candidates are tested in exact integer arithmetic against the interval
of numbers that round to the double; the ends of the interval belong to it when the mantissa is
even.
-/

namespace MockApi

/-- The number `digits * 10 ^ exponent`. -/
structure Decimal where
  digits : Nat
  exponent : Int
deriving DecidableEq, Repr

namespace Decimal

/-- Moves trailing zeros of the digits into the exponent. -/
def trim : Nat → Decimal → Decimal
  | 0, d => d
  | fuel + 1, d =>
    if d.digits ≠ 0 ∧ d.digits % 10 = 0 then trim fuel ⟨d.digits / 10, d.exponent + 1⟩ else d

/-- Count of decimal digits, one for zero. -/
def width (n : Nat) : Nat := (Nat.toDigits 10 n).length

end Decimal

namespace Double.Parts

/-- The rounding interval of a positive double, all over one denominator. -/
structure Interval where
  low : Nat
  value : Nat
  high : Nat
  denominator : Nat
  closed : Bool

/-- Half a unit to each side, a quarter unit below a power of two. -/
def interval (p : Parts) : Interval :=
  let scale := p.exponent - 2
  let factor := twoTo scale.toNat
  let below := if p.mantissa = twoTo 52 ∧ p.exponent ≠ -1074 then 1 else 2
  { low := (4 * p.mantissa - below) * factor
    value := 4 * p.mantissa * factor
    high := (4 * p.mantissa + 2) * factor
    denominator := twoTo (-scale).toNat
    closed := p.mantissa % 2 = 0 }

/-- The least `k` with the value below `10 ^ k`. -/
def Interval.magnitude (i : Interval) : Int :=
  if i.denominator ≤ i.value then Decimal.width (i.value / i.denominator)
  else
    let k := Decimal.width (i.denominator / i.value)
    if i.denominator ≤ i.value * tenTo (k - 1) then 2 - k else 1 - k

/-- The nearest multiple of `10 ^ exponent` that the interval holds, if it holds one. -/
def Interval.onGrid? (i : Interval) (exponent : Int) : Option Decimal :=
  let up := tenTo (-exponent).toNat
  let down := tenTo exponent.toNat
  let value := i.value * up
  let unit := i.denominator * down
  let lower := value / unit
  let holds (d : Nat) : Bool :=
    let point := d * unit
    if i.closed then i.low * up ≤ point && point ≤ i.high * up
    else i.low * up < point && point < i.high * up
  let below := value - lower * unit
  let above := (lower + 1) * unit - value
  let first := if below < above || (below == above && lower % 2 == 0) then lower else lower + 1
  let second := if first = lower then lower + 1 else lower
  if holds first then some ⟨first, exponent⟩
  else if holds second then some ⟨second, exponent⟩
  else none

/-- Tries one digit, then two, and so on; seventeen always succeed. -/
def Interval.shortest (i : Interval) : Nat → Nat → Decimal
  | 0, count => ⟨i.value * tenTo count / i.denominator, -count⟩
  | fuel + 1, count =>
    match i.onGrid? (i.magnitude - count) with
    | some d => d.trim 20
    | none => i.shortest fuel (count + 1)

/-- The shortest decimal of the absolute value. -/
def shortest (p : Parts) : Decimal :=
  if p.mantissa = 0 then ⟨0, 0⟩ else p.interval.shortest 17 1

end Double.Parts

end MockApi
