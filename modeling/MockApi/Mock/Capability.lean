import MockApi.Json.Value

/-! # Capabilities

A capability is one kind of value that can be made up. Some kinds have arguments: bounds, counts of
digits or letters, a pattern.
-/

namespace MockApi

/-- A kind of value. -/
inductive Capability where
  | date
  | dateTime
  | time
  | email
  | hostname
  | ipv4
  | ipv6
  | url
  | token
  | city
  | country
  | latitude
  | longitude
  | state
  | street
  | zip
  | fullName
  | uuid
  | integer
  | words
  | paragraph
  | sentence
  | boolean
  | image
  | phone
  | avatar
  /-- A multiple of a step between two bounds. -/
  | number (min max step : Float)
  /-- A number below one with a count of digits after the point. -/
  | float (fractionDigits : Nat)
  /-- An id that follows from a key and its place among array items. -/
  | seededId (min max seed : UInt64) (key : String)
  /-- Letters, as many as two bounds allow. -/
  | alpha (minLength maxLength : Option Nat)
  /-- A text that a pattern matches. -/
  | fromRegex (pattern : String)
deriving BEq, Repr, Inhabited

namespace Capability

/-- The lower bound of numbers without one. -/
def defaultMin : Float := 1

/-- The upper bound of numbers without one. -/
def defaultMax : Float := 1000

/-- The step of numbers without one. -/
def defaultStep : Float := 1

/-- The seed of ids and of random values. -/
def defaultSeed : UInt64 := 123

/-- A whole number between two bounds. -/
def between (min max : Float) : Capability := .number min max defaultStep

/-- The name in the catalog. -/
def name : Capability → String
  | .date => "date"
  | .dateTime => "dateTime"
  | .time => "time"
  | .email => "email"
  | .hostname => "hostname"
  | .ipv4 => "ipv4"
  | .ipv6 => "ipv6"
  | .url => "url"
  | .token => "token"
  | .city => "city"
  | .country => "country"
  | .latitude => "latitude"
  | .longitude => "longitude"
  | .state => "state"
  | .street => "street"
  | .zip => "zip"
  | .fullName => "name"
  | .uuid => "uuid"
  | .integer => "integer"
  | .words => "string"
  | .paragraph => "paragraph"
  | .sentence => "sentence"
  | .boolean => "boolean"
  | .image => "image"
  | .phone => "phone"
  | .avatar => "avatar"
  | .number .. => "number"
  | .float _ => "float"
  | .seededId .. => "seededId"
  | .alpha .. => "alpha"
  | .fromRegex _ => "fromRegExp"

/-- The capabilities without arguments. -/
def fixed : List Capability :=
  [.date, .dateTime, .time, .email, .hostname, .ipv4, .ipv6, .url, .token, .city, .country,
    .latitude, .longitude, .state, .street, .zip, .fullName, .uuid, .integer, .words, .paragraph,
    .sentence, .boolean, .image, .phone, .avatar]

/-- The word for a capability inside JSON. -/
def kind : Capability → String
  | .words => "words"
  | .fullName => "fullName"
  | .fromRegex _ => "fromRegex"
  | c => c.name

/-- A length inside JSON. -/
def lengthToJson (length : Option Nat) : Json := (length.map Json.nat).getD .null

/-- The object of a capability: its word and its arguments. -/
def toJson (c : Capability) : Json :=
  .object (("capability", .string c.kind) ::
    match c with
    | .number min max step =>
      [("min", Json.ofFloat min), ("max", Json.ofFloat max), ("multiple_of", Json.ofFloat step)]
    | .float digits => [("fraction_digits", Json.nat digits)]
    | .seededId min max seed key =>
      [("min", Json.nat min.toNat), ("max", Json.nat max.toNat), ("seed", Json.nat seed.toNat),
        ("key", .string key)]
    | .alpha minLength maxLength =>
      [("min_length", lengthToJson minLength), ("max_length", lengthToJson maxLength)]
    | .fromRegex pattern => [("pattern", .string pattern)]
    | _ => [])

end Capability

end MockApi
