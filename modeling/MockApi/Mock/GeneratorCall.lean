import MockApi.Mock.Capability
import MockApi.Number.Layout
import MockApi.Number.Read
import MockApi.Text.Blank
import MockApi.Text.Digit
import MockApi.Text.Search

/-! # Generator calls

A capability is written into a mock module as a JavaScript call, and such a call can be read back.
Reading takes what writing gives, with blanks between the arguments; only ids that follow from a key
are written and not read.
-/

namespace MockApi.Capability

/-- The call of a capability without arguments. -/
def fixedCall? : Capability → Option String
  | .date => some "faker.date.past().toISOString().substring(0, 10)"
  | .dateTime => some "faker.date.past()"
  | .time => some "new Date().toISOString().substring(11, 16)"
  | .email => some "faker.internet.email()"
  | .hostname => some "faker.internet.domainName()"
  | .ipv4 => some "faker.internet.ip()"
  | .ipv6 => some "faker.internet.ipv6()"
  | .url => some "faker.internet.url()"
  | .token => some "faker.internet.jwt()"
  | .city => some "faker.location.city()"
  | .country => some "faker.location.country()"
  | .latitude => some "faker.location.latitude()"
  | .longitude => some "faker.location.longitude()"
  | .state => some "faker.location.state()"
  | .street => some "faker.location.streetAddress()"
  | .zip => some "faker.location.zipCode()"
  | .fullName => some "faker.person.fullName()"
  | .uuid => some "faker.string.uuid()"
  | .integer => some "faker.number.int()"
  | .words => some "faker.lorem.words()"
  | .paragraph => some "faker.lorem.paragraph()"
  | .sentence => some "faker.lorem.sentence()"
  | .boolean => some "faker.datatype.boolean()"
  | .image => some "faker.image.urlLoremFlickr()"
  | .phone => some "faker.phone.number()"
  | .avatar => some "faker.image.avatar()"
  | .number .. | .float _ | .seededId .. | .alpha .. | .fromRegex _ => none

/-- A number as an argument: whole numbers of moderate size are written as integers. -/
def argument (x : Float) : String :=
  if Double.isWhole x && x.abs < 1e15 then toString (Double.toInt64 x) else Layout.plain.render x

/-- Puts a backslash before every slash that has none. A backslash and the character after it stay
as they are. -/
def escapeSlashes : List Char → List Char
  | [] => []
  | ['\\'] => ['\\']
  | '\\' :: c :: rest => '\\' :: c :: escapeSlashes rest
  | '/' :: rest => '\\' :: '/' :: escapeSlashes rest
  | c :: rest => c :: escapeSlashes rest

/-- A function that draws an id; the text does not depend on the key. -/
def seededCall (min max seed : UInt64) : String :=
  "(() => \x7b\n  const seed = ((Math.floor(Math.random() * 233280) + " ++ toString seed.toNat ++
    ") * 9301 + 49297) % 233280;\n  const random = seed / 233280;\n  return " ++
    toString min.toNat ++ " + Math.floor(random * " ++ toString max.toNat ++ ");\n\x7d)()"

/-- The bounds of a length as properties. -/
def lengthBounds (minLength maxLength : Option Nat) : List String :=
  (minLength.map fun n => "min: " ++ toString n).toList ++
    (maxLength.map fun n => "max: " ++ toString n).toList

/-- The call that makes letters. -/
def alphaCall (minLength maxLength : Option Nat) : String :=
  match lengthBounds minLength maxLength with
  | [] => "faker.string.alpha()"
  | [bound] => "faker.string.alpha(\x7b length: \x7b " ++ bound ++ " \x7d \x7d)"
  | first :: second :: _ =>
    "faker.string.alpha(\x7b length: \x7b " ++ first ++ ", " ++ second ++ " \x7d \x7d)"

/-- The call that a capability is written as. -/
def call : Capability → String
  | .number min max step =>
    "faker.number.int(\x7b min: " ++ argument min ++ ", max: " ++ argument max ++
      ", multipleOf: " ++ argument step ++ " \x7d)"
  | .float digits => "faker.number.float(\x7b fractionDigits: " ++ toString digits ++ " \x7d)"
  | .seededId min max seed _ => seededCall min max seed
  | .alpha minLength maxLength => alphaCall minLength maxLength
  | .fromRegex pattern =>
    "faker.helpers.fromRegExp(/" ++ String.ofList (escapeSlashes pattern.toList) ++ "/)"
  | other => other.fixedCall?.getD ""

namespace Call

/-- The rest of a text after a word and the blanks that follow it. -/
def afterWord? (word : String) (cs : List Char) : Option (List Char) :=
  (Text.after? word.toList cs).map fun rest => rest.dropWhile Text.isBlank

/-- True of the characters of a number argument. -/
def isNumberChar (c : Char) : Bool := Text.isAnyDigit c || c == '.' || c == 'e' || c == '+'

/-- Characters of a class, at least one, and the rest. -/
def run? (inside : Char → Bool) (cs : List Char) : Option (List Char × List Char) :=
  let taken := cs.takeWhile inside
  if taken.isEmpty then none else some (taken, cs.drop taken.length)

/-- A number argument with an optional minus sign, and the rest. -/
def signed? (cs : List Char) : Option (List Char × List Char) :=
  match cs with
  | '-' :: rest => (run? isNumberChar rest).map fun (taken, rest) => ('-' :: taken, rest)
  | _ => run? isNumberChar cs

/-- True when only the closing of an argument object is left. -/
def closes (closing : List Char) (cs : List Char) : Bool := cs.dropWhile Text.isBlank == closing

/-- A number; an argument that spells none counts as the default. -/
def numberOr (fallback : Float) (cs : List Char) : Float :=
  (Decimal.Text.toFloat? cs).getD fallback

/-- A call for bounded numbers. -/
def number? (cs : List Char) : Option Capability := do
  let cs ← afterWord? "faker.number.int(\x7b" cs
  let cs ← afterWord? "min:" cs
  let (low, cs) ← signed? cs
  let cs ← afterWord? "," cs
  let cs ← afterWord? "max:" cs
  let (high, cs) ← signed? cs
  let closing := ['\x7d', ')']
  let bounds (step : Float) : Capability :=
    .number (numberOr defaultMin low) (numberOr defaultMax high) step
  if closes closing cs then return bounds defaultStep
  let cs ← afterWord? "," cs
  let cs ← afterWord? "multipleOf:" cs
  let (step, cs) ← run? isNumberChar cs
  if closes closing cs then return bounds (numberOr defaultStep step) else none

/-- A natural number below a limit in decimal digits. -/
def natBelow? (limit : Nat) (cs : List Char) : Option Nat := (readNat? cs).filter (· < limit)

/-- A call for numbers below one. -/
def float? (cs : List Char) : Option Capability := do
  let cs ← afterWord? "faker.number.float(\x7b" cs
  let cs ← afterWord? "fractionDigits:" cs
  let (digits, cs) ← run? Text.isAnyDigit cs
  if closes ['\x7d', ')'] cs then return .float (← natBelow? (twoTo 32) digits) else none

/-- A named length bound, when there is one. A bound that is too large counts as absent; a name
without digits fails. -/
def bound? (name : String) (cs : List Char) : Option (Option Nat × List Char) :=
  match afterWord? name cs with
  | none => some (none, cs)
  | some rest => (run? Text.isAnyDigit rest).map fun (digits, rest) =>
    (natBelow? (twoTo 64) digits, rest)

/-- A call for letters. -/
def alpha? (cs : List Char) : Option Capability := do
  let cs ← afterWord? "faker.string.alpha(\x7b" cs
  let cs ← afterWord? "length:" cs
  let cs ← afterWord? "\x7b" cs
  let (low, cs) ← bound? "min:" cs
  let cs := match cs with
    | ',' :: rest => rest
    | _ => cs
  let (high, cs) ← bound? "max:" (cs.dropWhile Text.isBlank)
  let cs ← afterWord? "\x7d" (cs.dropWhile Text.isBlank)
  if cs == ['\x7d', ')'] then return .alpha low high else none

/-- What stands before a closing text. -/
def before? (closing : List Char) (cs : List Char) : Option (List Char) :=
  if closing.isSuffixOf cs then some (cs.take (cs.length - closing.length)) else none

/-- A call for texts that match a pattern. -/
def pattern? (cs : List Char) : Option Capability := do
  let cs ← Text.after? "faker.helpers.fromRegExp(/".toList cs
  let body ← before? ['/', ')'] cs
  if body.contains '\n' then none
  else return .fromRegex (String.ofList (Text.replace ['\\', '/'] ['/'] body))

end Call

/-- The capability that a call asks for. -/
def ofCall? (text : String) : Option Capability :=
  let trimmed := Text.trim text
  let cs := trimmed.toList
  (fixed.find? fun c => c.fixedCall? == some trimmed) <|>
    Call.number? cs <|> Call.float? cs <|> Call.alpha? cs <|> Call.pattern? cs

end MockApi.Capability
