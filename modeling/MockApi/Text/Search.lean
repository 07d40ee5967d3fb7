/-! # Searching and replacing in texts

Plain searches over lists of characters. A replacement goes once from left to right and does not
look at what it has written.
-/

namespace MockApi.Text

/-- What follows `lead` at the front of a text that starts with it. -/
def after? (lead : List Char) (cs : List Char) : Option (List Char) :=
  if lead.isPrefixOf cs then some (cs.drop lead.length) else none

/-- True when the text contains the word somewhere; the empty word is everywhere. -/
def contains (word : List Char) : List Char → Bool
  | [] => word.isEmpty
  | c :: rest => word.isPrefixOf (c :: rest) || contains word rest

/-- Replaces every occurrence of a non-empty word; `skip` counts characters of an occurrence that
was replaced and is still being passed. -/
def replaceFrom (word new : List Char) : Nat → List Char → List Char
  | _, [] => []
  | skip + 1, _ :: rest => replaceFrom word new skip rest
  | 0, c :: rest =>
    if !word.isEmpty && word.isPrefixOf (c :: rest) then
      new ++ replaceFrom word new (word.length - 1) rest
    else c :: replaceFrom word new 0 rest

/-- Replaces every occurrence of a word. -/
def replace (word new : List Char) (cs : List Char) : List Char := replaceFrom word new 0 cs

/-- The pieces between separators, one more than there are separators. -/
def splitAt (separator : Char) : List Char → List (List Char)
  | [] => [[]]
  | c :: rest =>
    if c = separator then [] :: splitAt separator rest
    else match splitAt separator rest with
      | [] => [[c]]
      | piece :: pieces => (c :: piece) :: pieces

/-- The pieces of a text between separators. -/
def split (separator : Char) (s : String) : List String :=
  (splitAt separator s.toList).map String.ofList

end MockApi.Text
