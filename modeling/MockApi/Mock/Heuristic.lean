import MockApi.Mock.Capability
import MockApi.Text.Search
import MockApi.Text.Word

/-! # What a key or a format suggests

The name of a property often tells what its values look like. Two tables, one for strings and one
for numbers, are searched in order and the first pattern that fits the key decides. A string format
may suggest a kind of value too.
-/

namespace MockApi

/-- A test on keys. Segments are the pieces of a key between underscores. -/
inductive KeyPattern where
  /-- The key is the word. -/
  | whole (word : String)
  /-- The key ends in the word. -/
  | ending (word : String)
  /-- Something stands before the word that ends the key. -/
  | suffix (word : String)
  /-- One of the words is a segment. -/
  | segment (words : List String)
  /-- One of the words is the last segment. -/
  | lastSegment (words : List String)
  /-- One of the words stands in the key with no letter, digit or underscore beside it. -/
  | standalone (words : List String)
  | either (first second : KeyPattern)
deriving Repr

namespace KeyPattern

/-- True when a word occurs with no word character beside it; the flag tells whether one came last.
-/
def standsAlone (word : List Char) : Bool → List Char → Bool
  | _, [] => false
  | after, c :: rest =>
    (!after && word.isPrefixOf (c :: rest) &&
      ((c :: rest).drop word.length).head?.all fun d => !Text.isWordChar d) ||
      standsAlone word (Text.isWordChar c) rest

/-- Whether a key passes the test. -/
def fits (key : String) : KeyPattern → Bool
  | .whole word => key == word
  | .ending word => word.toList.isSuffixOf key.toList
  | .suffix word =>
    word.toList.isSuffixOf key.toList &&
      (key.toList.take (key.length - word.length)).getLast?.any fun c => c != '\n'
  | .segment words => (Text.split '_' key).any fun s => words.contains s
  | .lastSegment words => (Text.split '_' key).getLast?.any fun s => words.contains s
  | .standalone words => words.any fun w => standsAlone w.toList false key.toList
  | .either first second => first.fits key || second.fits key

end KeyPattern

namespace Capability

/-- The pictures of people. -/
def portraitKeys : List String :=
  ["profile", "user"].flatMap fun owner =>
    ["image", "img", "photo", "picture"].map fun kind => owner ++ "_" ++ kind

/-- What keys of strings suggest. -/
def stringTable : List (KeyPattern × Capability) :=
  [(.lastSegment ["id"], .uuid), (.segment ["uuid"], .uuid), (.segment ["token"], .token),
    (.suffix "_at", .dateTime), (.segment ["timestamp"], .dateTime),
    (.segment ["street"], .street), (.segment ["city"], .city), (.segment ["state"], .state),
    (.segment ["zip"], .zip), (.segment ["country"], .country), (.whole "postal_code", .zip),
    (.segment ["latitude"], .latitude), (.segment ["longitude"], .longitude),
    (.segment ["phone"], .phone), (.segment ["mobile"], .phone), (.segment ["email"], .email),
    (.ending "name", .fullName), (.lastSegment ["url", "uri"], .url),
    (.either (.standalone portraitKeys) (.segment ["avatar"]), .avatar),
    (.segment ["photo", "image", "picture", "img"], .image), (.segment ["title"], .sentence),
    (.segment ["description"], .paragraph), (.segment ["content"], .paragraph),
    (.segment ["text"], .paragraph), (.segment ["paragraph"], .paragraph),
    (.segment ["comment", "comments"], .sentence), (.segment ["message"], .sentence),
    (.segment ["summary"], .paragraph)]

/-- What keys of numbers suggest; the year is the current one. -/
def numberTable (key : String) (year : Nat) : List (KeyPattern × Capability) :=
  let id : Capability := .seededId 1 1000 defaultSeed key
  let moderate := between 1 1000
  let price := between 1 100000
  let rating := between 1 5
  [(.whole "id", id), (.suffix "_id", id), (.segment ["age"], between 20 80),
    (.segment ["year"], between 1900 (Float.ofNat year)), (.segment ["month"], between 1 12),
    (.segment ["day"], between 1 31), (.segment ["count", "counts"], moderate),
    (.segment ["quantity"], moderate), (.segment ["amount"], moderate),
    (.segment ["total"], moderate), (.segment ["price"], price),
    (.segment ["discount", "discounts"], .float 1), (.segment ["tax"], price),
    (.segment ["fee"], price), (.segment ["size"], moderate), (.segment ["length"], moderate),
    (.segment ["width"], moderate), (.segment ["height"], moderate),
    (.segment ["weight"], moderate), (.segment ["rating", "ratings"], rating),
    (.segment ["stars"], rating), (.segment ["score", "scores"], between 1 100)]

/-- The first entry of a table that fits a key. -/
def lookUp (table : List (KeyPattern × Capability)) (key : String) : Option Capability :=
  (table.find? fun entry => entry.1.fits key).map Prod.snd

/-- What the key of a string suggests. -/
def ofStringKey? (key : String) : Option Capability := lookUp stringTable key

/-- What the key of a number suggests. -/
def ofNumberKey? (year : Nat) (key : String) : Option Capability :=
  lookUp (numberTable key year) key

/-- The pattern of texts that are patterns themselves but declare none. -/
def defaultPattern : String := "[a-zA-Z0-9]\x7b8\x7d"

/-- What a string format suggests. -/
def ofFormat? (format : String) (pattern : Option String) : Option Capability :=
  match format with
  | "date" => some .date
  | "time" => some .time
  | "date-time" => some .dateTime
  | "email" | "idn-email" => some .email
  | "hostname" | "idn-hostname" => some .hostname
  | "ipv4" => some .ipv4
  | "ipv6" => some .ipv6
  | "uuid" => some .uuid
  | "uri" | "iri" | "uri-reference" | "iri-reference" | "uri-template" => some .url
  | "regex" => some (.fromRegex (pattern.getD defaultPattern))
  | _ => none

end Capability

end MockApi
