/-
  FormPress.Command.Outcome

  How a command ends, and what it leaves behind: the lines that it printed and
  the files that it wrote.
-/
import FormPress.Command.Arguments
import FormPress.Print.Pdf

namespace FormPress.Command

/-- How a command ends. -/
inductive Ending where
  | done
  | code (n : Nat)
  | failed (e : Failure)
  deriving Repr, Inhabited

/-- The content of a file that a command writes. -/
inductive Written where
  | html (s : String)
  | pdf (p : Pdf)
  deriving Repr, Inhabited

/-! ## Results -/

/-- The files while a command works, and what it wrote where. -/
structure Results where
  files : Files
  written : Table Place Written := []
  deriving Inhabited

namespace Results

/-- Writes markup into a file, and says what went wrong. Markup with halves of characters leaves an
    empty file. -/
def putMarkup (r : Results) (path : Path) (markup : String) : Results × Option Failure :=
  let (files, fault) := r.files.writeText path markup
  match r.files.locate path, fault with
  | .ok place, none => (⟨files, r.written.put place (.html markup)⟩, none)
  | .ok place, some .halfCharacters =>
    (⟨files, r.written.put place (.html "")⟩, some (.file path .halfCharacters))
  | _, fault => (r, fault.map (.file path))

/-- Writes a printed document into a file as some bytes, and says what went wrong. -/
def putPrinted (r : Results) (path : Path) (pdf : Pdf) (bytes : ByteArray) :
    Results × Option Failure :=
  match r.files.locate path, r.files.write path (.file bytes) with
  | .ok place, .ok files => (⟨files, r.written.put place (.pdf pdf)⟩, none)
  | _, .error fault | .error fault, _ => (r, some (.file path fault))

/-- Writes the markup of some files up to the first that fails. -/
def putAll (r : Results) : List (Path × String) → Results × Option Failure
  | [] => (r, none)
  | (path, markup) :: rest =>
    match r.putMarkup path markup with
    | (r, none) => r.putAll rest
    | (r, some e) => (r, some e)

end Results

/-! ## Outcomes -/

/-- What a command leaves behind. -/
structure Outcome where
  ending : Ending
  lines : List String
  written : Table Place Written
  deriving Repr, Inhabited

/-- The outcome of a refused command. -/
def Outcome.refused (r : Refusal) : Outcome := ⟨.code r.code, [], []⟩

/-- The outcome of a command that failed at once. -/
def Outcome.failed (e : Failure) : Outcome := ⟨.failed e, [], []⟩

/-- Puts a line in front of an outcome. -/
def Outcome.after (line : String) (o : Outcome) : Outcome := { o with lines := line :: o.lines }

end FormPress.Command
