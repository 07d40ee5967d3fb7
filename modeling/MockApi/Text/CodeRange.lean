/-! # Ranges of code points

A class of characters is a list of closed ranges in increasing order. A property with many values
is written as runs: each run is the hexadecimal code point at which it starts and the name of its
value, and it lasts until the next one starts.
-/

namespace MockApi.Text

/-- True when one of the closed ranges holds the number. -/
def inRanges (ranges : List (Nat × Nat)) (n : Nat) : Bool :=
  ranges.any fun r => r.1 ≤ n && n ≤ r.2

/-- The last code point. -/
def lastCode : Nat := 0x10FFFF

/-- The value of a hexadecimal digit. -/
def hexValue? (c : Char) : Option Nat :=
  if c.isDigit then some (c.toNat - '0'.toNat)
  else if 'a' ≤ c && c ≤ 'f' then some (c.toNat - 'a'.toNat + 10)
  else if 'A' ≤ c && c ≤ 'F' then some (c.toNat - 'A'.toNat + 10)
  else none

/-- The number that hexadecimal digits write. -/
def ofHex (digits : List Char) : Nat :=
  digits.foldl (fun n c => n * 16 + (hexValue? c).getD 0) 0

/-- A run of a table: its start and the name of its value, which starts with a capital. -/
def readRun (run : List Char) : Nat × String :=
  (ofHex (run.takeWhile fun c => !c.isUpper), String.ofList (run.dropWhile fun c => !c.isUpper))

/-- The runs of a table, whose lines hold runs separated by single blanks. -/
def readRuns (lines : List String) : List (Nat × String) :=
  lines.flatMap fun line => (line.splitOn " ").map fun run => readRun run.toList

/-- The ranges of the runs whose value is wanted. -/
def rangesWhere (wanted : String → Bool) : List (Nat × String) → List (Nat × Nat)
  | [] => []
  | [(start, name)] => if wanted name then [(start, lastCode)] else []
  | (start, name) :: (next, after) :: rest =>
    let ranges := rangesWhere wanted ((next, after) :: rest)
    if wanted name then (start, next - 1) :: ranges else ranges

end MockApi.Text
