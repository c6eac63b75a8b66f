/-
  FormPress.Log

  Notes about what went wrong on the way, for those who watch a run.
-/

namespace FormPress

/-- How grave a note is. -/
inductive LogLevel where
  | warning
  | error
  deriving Repr, DecidableEq, Inhabited

/-- The word for a level. -/
def LogLevel.word : LogLevel → String
  | warning => "WARNING"
  | error => "ERROR"

/-- A note. -/
structure LogEntry where
  level : LogLevel
  text : String
  deriving Repr, DecidableEq, Inhabited

/-- A warning. -/
def LogEntry.warning (text : String) : LogEntry := ⟨.warning, text⟩

/-- A note on an error. -/
def LogEntry.error (text : String) : LogEntry := ⟨.error, text⟩

end FormPress
