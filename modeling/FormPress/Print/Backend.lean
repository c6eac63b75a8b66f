/-
  FormPress.Print.Backend

  What prints a pass: something with a state of its own that turns markup into
  pages or fails, and may leave notes.
-/
import FormPress.Log
import FormPress.Print.Options
import FormPress.Print.Pdf

namespace FormPress

/-- What printing gave, the notes on the way, and the state after it. -/
structure Printed (σ : Type) where
  result : Except Failure PageRange
  log : List LogEntry
  state : σ

/-- A backend with states of type `σ`. -/
structure Backend (σ : Type) where
  print : String → PrintOptions → σ → Printed σ

end FormPress
