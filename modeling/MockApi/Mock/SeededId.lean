import MockApi.Number.Double

/-! # Ids that follow from a key

An id depends on the property key, on a seed and on the position among array items, and on nothing
else. Key and position are hashed, the hash is put through one step of a congruential generator, and
the result is scaled to the range.
-/

namespace MockApi.SeededId

/-- The modulus of the congruential generator. -/
def modulus : UInt64 := 233280

/-- One step of the hash over a byte. -/
def mixByte (hash : UInt64) (byte : UInt8) : UInt64 := (hash ^^^ byte.toUInt64) * 0x100000001b3

/-- The hash of a key at a position. -/
def hash (seed : UInt64) (key : String) (position : UInt64) : UInt64 :=
  let start := seed ^^^ 0xcbf29ce484222325
  let keyed := key.toUTF8.toList.foldl mixByte start
  (keyed ^^^ (position * 0x9e3779b97f4a7c15)) * 0x100000001b3

/-- The state of the congruential generator after one step. -/
def draw (seed : UInt64) (key : String) (position : UInt64) : UInt64 :=
  ((hash seed key position % modulus + seed) * 9301 + 49297) % modulus

/-- The id of a key at a position: at least `min`, below `min + max`, and never past the largest 64
bit number. -/
def id (min max seed : UInt64) (key : String) (position : UInt64) : Nat :=
  let fraction := Float.ofNat (draw seed key position).toNat / Float.ofNat modulus.toNat
  let offset := Double.toNat64 (Double.floor (fraction * Float.ofNat max.toNat))
  Nat.min (min.toNat + offset) Double.maxNat64

/-- The position among nested array items, outermost first; zero outside of arrays. -/
def position (path : List Nat) : UInt64 :=
  path.foldl (fun acc index => acc * 31 + (UInt64.ofNat index + 1)) 0

end MockApi.SeededId
