/-! # Entries in document order

A map whose keys keep the order of their first appearance is a list of pairs. Writing to a key that
is present changes its value in place; a new key goes to the end.
-/

namespace MockApi

/-- Pairs of a key and a value, in order. -/
abbrev Entries (α : Type) := List (String × α)

namespace Entries

variable {α β : Type}

/-- The value of a key. -/
def find? (xs : Entries α) (key : String) : Option α := xs.lookup key

/-- The keys in order. -/
def keys (xs : Entries α) : List String := xs.map Prod.fst

/-- The values in order. -/
def values (xs : Entries α) : List α := xs.map Prod.snd

/-- True when the key is present. -/
def has (xs : Entries α) (key : String) : Bool := (xs.find? key).isSome

/-- Writes the value that `f` makes of the value present, if any. -/
def alter (key : String) (f : Option α → α) : Entries α → Entries α
  | [] => [(key, f none)]
  | (k, v) :: rest => if k = key then (k, f (some v)) :: rest else (k, v) :: alter key f rest

/-- Writes a value. -/
def insert (xs : Entries α) (key : String) (value : α) : Entries α := xs.alter key fun _ => value

/-- Keeps the first position and the last value of every key. -/
def ofList (xs : List (String × α)) : Entries α := xs.foldl (fun acc x => insert acc x.1 x.2) []

/-- Changes every value. -/
def mapValues (f : α → β) (xs : Entries α) : Entries β := xs.map fun x => (x.1, f x.2)

end Entries

end MockApi
