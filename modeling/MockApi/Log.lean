/-! # Log lines

What a run has to say beside its result, in order.
-/

namespace MockApi

/-- How much weight a log line has. -/
inductive Severity where
  | warning
  | error
deriving DecidableEq, Repr

/-- The word for a severity. -/
def Severity.word : Severity → String
  | .warning => "WARN"
  | .error => "ERROR"

/-- A line of the log. -/
structure LogLine where
  severity : Severity
  text : String
deriving DecidableEq, Repr

namespace LogLine

/-- A warning. -/
def warn (text : String) : LogLine := ⟨.warning, text⟩

/-- An error. -/
def fault (text : String) : LogLine := ⟨.error, text⟩

/-- The line with its severity. -/
def render (l : LogLine) : String := l.severity.word ++ " " ++ l.text

end LogLine

end MockApi
