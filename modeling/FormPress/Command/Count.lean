/-
  FormPress.Command.Count

  The command that counts the pages of a printed document.
-/
import FormPress.Command.Outcome

namespace FormPress.Command

/-- The options of the command. -/
def countOptions : List OptionSpec := [⟨"--pdf", .value⟩]

/-- What the arguments ask for. -/
structure CountRequest where
  /-- the text of the document's path, of several the last; two dashes are no path -/
  document : Option (Option String) := none
  /-- whether something was given that has no meaning -/
  strange : Bool := false
  deriving Repr, DecidableEq, Inhabited

namespace CountRequest

/-- Takes in one thing given. -/
def accept (r : CountRequest) : Given → Except Refusal CountRequest
  | .option _ path => .ok { r with document := some path }
  | .help => .error .help
  | .broken => .error .wrong
  | _ => .ok { r with strange := true }

/-- The text of the document's path that the arguments name. -/
def ofArguments (args : List String) : Except Refusal (Option String) := do
  let all ← given countOptions 0 args
  let r ← all.foldlM accept {}
  match r.document with
  | some path => if r.strange then .error .wrong else .ok path
  | none => .error .wrong

end CountRequest

/-- The pages of the document at a path, where `parse` finds the pages in the bytes of a file. -/
def countPages (files : Files) (parse : ByteArray → Pdf) (path : Path) : Except Failure Nat := do
  let content ← (files.read path).mapError (Failure.file path)
  (parse content).count

/-- Counts the pages of the document that the arguments name. -/
def count (files : Files) (parse : ByteArray → Pdf) (args : List String) : Outcome :=
  match CountRequest.ofArguments args with
  | .error r => .refused r
  | .ok none => .failed (.misuse (.asPath "list"))
  | .ok (some path) =>
    match countPages files parse (.ofText path) with
    | .error e => .failed e
    | .ok n => ⟨.done, [toString n], []⟩

end FormPress.Command
