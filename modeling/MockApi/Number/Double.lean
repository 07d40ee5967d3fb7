import MockApi.Number.Power

/-! # Exact view of double precision numbers

A finite double is an integer times a power of two. Rounding to an integer and conversion to a
bounded integer are read off that view, so they are plain integer arithmetic.
-/

namespace MockApi.Double

/-- The number `mantissa * 2 ^ exponent`, negated when `negative` holds. -/
structure Parts where
  negative : Bool
  mantissa : Nat
  exponent : Int
deriving DecidableEq, Repr

/-- Sign, mantissa and exponent of a finite double, nothing for an infinity or NaN. -/
def parts? (x : Float) : Option Parts :=
  let bits := x.toBits.toNat
  let negative := twoTo 63 ≤ bits
  let biased : Nat := bits / twoTo 52 % 2048
  let fraction := bits % twoTo 52
  if biased = 2047 then none
  else if biased = 0 then some ⟨negative, fraction, -1074⟩
  else some ⟨negative, fraction + twoTo 52, (biased : Int) - 1075⟩

/-- The mantissa with its sign. -/
def Parts.signed (p : Parts) : Int :=
  if p.negative then -(p.mantissa : Int) else p.mantissa

/-- True of the finite doubles that are whole numbers. -/
def isWhole (x : Float) : Bool :=
  match parts? x with
  | none => false
  | some p => 0 ≤ p.exponent || p.mantissa % twoTo (-p.exponent).toNat == 0

/-- Rounds toward minus infinity; infinities and NaN stay. -/
def floor (x : Float) : Float :=
  match parts? x with
  | none => x
  | some p =>
    if 0 ≤ p.exponent then x else Float.ofInt (p.signed.fdiv (twoTo (-p.exponent).toNat))

/-- Rounds toward plus infinity; infinities and NaN stay. -/
def ceil (x : Float) : Float :=
  match parts? x with
  | none => x
  | some p =>
    if 0 ≤ p.exponent then x else Float.ofInt (-((-p.signed).fdiv (twoTo (-p.exponent).toNat)))

/-- Rounds to the nearest whole number, a half away from zero; infinities and NaN stay. -/
def round (x : Float) : Float :=
  match parts? x with
  | none => x
  | some p =>
    if 0 ≤ p.exponent then x
    else
      let unit := twoTo (-p.exponent).toNat
      let n : Nat := (2 * p.mantissa + unit) / (2 * unit)
      if p.negative then -Float.ofNat n else Float.ofNat n

/-- The whole part of a finite double, toward zero. -/
def Parts.truncate (p : Parts) : Int :=
  if 0 ≤ p.exponent then p.signed * twoTo p.exponent.toNat
  else p.signed.tdiv (twoTo (-p.exponent).toNat)

/-- The whole part of `x` moved into the range from `low` to `high`; NaN counts as zero. -/
def clampTo (low high : Int) (x : Float) : Int :=
  match parts? x with
  | some p => max low (min high p.truncate)
  | none => if x > 0 then high else if x < 0 then low else 0

/-- The smallest signed 64 bit integer. -/
def minInt64 : Int := -(twoTo 63 : Int)

/-- The largest signed 64 bit integer. -/
def maxInt64 : Int := (twoTo 63 : Int) - 1

/-- The largest unsigned 64 bit integer. -/
def maxNat64 : Nat := twoTo 64 - 1

/-- Conversion to a signed 64 bit integer that stops at the ends of the range. -/
def toInt64 (x : Float) : Int := clampTo minInt64 maxInt64 x

/-- Conversion to an unsigned 64 bit integer that stops at the ends of the range. -/
def toNat64 (x : Float) : Nat := (clampTo 0 maxNat64 x).toNat

/-- The smaller of two doubles; NaN gives way to the other. -/
def smaller (x y : Float) : Float :=
  if x < y then x else if y < x then y else if x.isNaN then y else x

/-- The larger of two doubles; NaN gives way to the other. -/
def larger (x y : Float) : Float :=
  if x > y then x else if y > x then y else if x.isNaN then y else x

/-- Positive infinity. -/
def infinity : Float := Float.ofBits 0x7FF0000000000000

/-- The not-a-number value. -/
def notANumber : Float := Float.ofBits 0x7FF8000000000000

/-- True of the doubles that are neither infinite nor NaN. -/
def isFinite (x : Float) : Bool := (parts? x).isSome

/-- The double with the other sign. -/
def negate (x : Float) : Float := Float.ofBits (x.toBits ^^^ 0x8000000000000000)

end MockApi.Double
