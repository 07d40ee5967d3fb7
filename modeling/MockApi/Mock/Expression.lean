import MockApi.Json.Printer
import MockApi.Mock.GeneratorCall

/-! # Mock expressions

An expression says how one value is made up: a literal, a capability, a generator call in the words
of the user, a custom producer, an object, repeated items or a choice. It is written into a mock
module as JavaScript.
-/

namespace MockApi

/-- A function of the user. What a call of it gives is up to who calls, since it may remember
earlier calls; `outcome` is what it gives where it remembers nothing: a value, or the text of a
failure. -/
structure Producer where
  source : String
  outcome : Except String Json

/-- The key of an object entry: fixed, or made up like a value. -/
inductive EntryKey (α : Type) where
  | fixed (name : String)
  | generated (expression : α)

/-- How to make up one value. -/
inductive Expression where
  | literal (value : Json)
  | call (capability : Capability)
  | generator (source : String)
  | custom (producer : Producer)
  | object (entries : List (EntryKey Expression × Expression))
  | copies (count : Nat) (item : Expression)
  | choice (options : List Expression)
deriving Inhabited

namespace Expression

/-- The expression for null. -/
def null : Expression := .literal .null

mutual

/-- True when nothing in the expression is made up. -/
def isLiteral : Expression → Bool
  | .literal _ => true
  | .object entries => areLiteral entries
  | .copies _ item => item.isLiteral
  | .call _ | .generator _ | .custom _ | .choice _ => false

/-- True when all keys are fixed and all values literal. -/
def areLiteral : List (EntryKey Expression × Expression) → Bool
  | [] => true
  | (.fixed _, value) :: rest => value.isLiteral && areLiteral rest
  | (.generated _, _) :: _ => false

end

/-- True of the capabilities whose call needs the faker library. -/
def callUsesFaker : Capability → Bool
  | .seededId .. => false
  | _ => true

mutual

/-- True when the written expression needs the faker library. -/
def usesFaker : Expression → Bool
  | .literal _ => false
  | .call capability => callUsesFaker capability
  | .generator _ => true
  | .choice _ => true
  | .custom producer => Text.contains "faker.".toList producer.source.toList
  | .object entries => someUsesFaker entries
  | .copies _ item => item.usesFaker

/-- True when a key or value needs the faker library. -/
def someUsesFaker : List (EntryKey Expression × Expression) → Bool
  | [] => false
  | (.fixed _, value) :: rest => value.usesFaker || someUsesFaker rest
  | (.generated key, value) :: rest => key.usesFaker || value.usesFaker || someUsesFaker rest

end

/-- A key between single quotes: backslashes and then single quotes get a backslash. -/
def escapeKey (cs : List Char) : List Char :=
  Text.replace ['\''] ['\\', '\''] (Text.replace ['\\'] ['\\', '\\'] cs)

mutual

/-- The JavaScript of an expression. -/
def source : Expression → String
  | .literal value => value.compact
  | .call capability => capability.call
  | .generator source => source
  | .custom producer => "(" ++ producer.source ++ ")()"
  | .object entries => "\x7b" ++ Json.joinWith ",\n" (entrySources entries) ++ "\x7d"
  | .copies count item =>
    "Array.from(\x7b length: " ++ toString count ++ " \x7d, () => (" ++ item.source ++ "))"
  | .choice options =>
    "faker.helpers.arrayElement([" ++ Json.joinWith "," (optionSources options) ++ "])"

/-- The JavaScript of entries. -/
def entrySources : List (EntryKey Expression × Expression) → List String
  | [] => []
  | (.fixed name, value) :: rest =>
    ("'" ++ String.ofList (escapeKey name.toList) ++ "': " ++ value.source) :: entrySources rest
  | (.generated key, value) :: rest =>
    ("[" ++ key.source ++ "]: " ++ value.source) :: entrySources rest

/-- The JavaScript of options. -/
def optionSources : List Expression → List String
  | [] => []
  | e :: rest => e.source :: optionSources rest

end

end Expression

end MockApi
