import MockApi.Number.Layout

/-! # Why a value cannot be made up -/

namespace MockApi

/-- The reasons for which making up a value fails. -/
inductive MockError where
  /-- A pattern of which no text can be drawn. -/
  | invalidPattern (pattern : String)
  /-- A generator call that cannot be executed here. -/
  | unsupported (call : String)
  | producerFailed (producer reason : String)
  /-- No multiple of the step lies between the bounds. -/
  | emptyRange (min max step : Float)
  | lengthTooLarge (length limit : Nat)
  | emptyChoice
deriving Repr

/-- The wording of an error, as far as it is fixed. -/
def MockError.message : MockError → String
  | .invalidPattern pattern => "Invalid regex pattern " ++ pattern
  | .unsupported call => "Unsupported generator expression: " ++ call
  | .producerFailed producer reason =>
    "Custom producer " ++ "\x60" ++ producer ++ "\x60" ++ " failed: " ++ reason
  | .emptyRange min max step =>
    "No multiple of " ++ Layout.plain.render step ++ " between " ++ Layout.plain.render min ++
      " and " ++ Layout.plain.render max
  | .lengthTooLarge length limit =>
    "String length " ++ toString length ++ " exceeds the static generation limit of " ++
      toString limit
  | .emptyChoice => "Cannot pick from an empty list of alternatives"

end MockApi
