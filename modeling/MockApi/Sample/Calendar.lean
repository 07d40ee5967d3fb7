/-! # Dates

A moment is a count of milliseconds since the start of 1970 in universal time.
-/

namespace MockApi.Sample

/-- Year, month and day. -/
structure Date where
  year : Nat
  month : Nat
  day : Nat
deriving DecidableEq, Repr

/-- A moment in milliseconds since the start of 1970. -/
structure Moment where
  millis : Nat
deriving DecidableEq, Repr

namespace Moment

/-- Milliseconds of a day. -/
def dayLength : Nat := 24 * 60 * 60 * 1000

/-- The date of a day, counted from the start of 1970. Years are taken to start in March, so that a
leap day ends one; 400 of them have 146097 days. -/
def dateOf (days : Nat) : Date :=
  let shifted := days + 719468
  let era := shifted / 146097
  let dayOfEra := shifted % 146097
  let yearOfEra := (dayOfEra - dayOfEra / 1460 + dayOfEra / 36524 - dayOfEra / 146096) / 365
  let dayOfYear := dayOfEra - (365 * yearOfEra + yearOfEra / 4 - yearOfEra / 100)
  let fromMarch := (5 * dayOfYear + 2) / 153
  let month := if fromMarch < 10 then fromMarch + 3 else fromMarch - 9
  ⟨yearOfEra + era * 400 + (if month ≤ 2 then 1 else 0), month,
    dayOfYear - (153 * fromMarch + 2) / 5 + 1⟩

/-- The date of a moment. -/
def date (m : Moment) : Date := dateOf (m.millis / dayLength)

/-- The moment some seconds earlier. -/
def back (m : Moment) (seconds : Nat) : Moment := ⟨m.millis - seconds * 1000⟩

/-- A number with zeros in front, of a least width. -/
def padded (width n : Nat) : String :=
  let digits := toString n
  String.ofList (List.replicate (width - digits.length) '0') ++ digits

/-- Year, month and day with hyphens. -/
def dateText (m : Moment) : String :=
  padded 4 m.date.year ++ "-" ++ padded 2 m.date.month ++ "-" ++ padded 2 m.date.day

/-- Hour and minute. -/
def hourText (m : Moment) : String :=
  padded 2 (m.millis / 3600000 % 24) ++ ":" ++ padded 2 (m.millis / 60000 % 60)

/-- Date and time with milliseconds. -/
def fullText (m : Moment) : String :=
  m.dateText ++ "T" ++ m.hourText ++ ":" ++ padded 2 (m.millis / 1000 % 60) ++ "." ++
    padded 3 (m.millis % 1000) ++ "Z"

end Moment
end MockApi.Sample
