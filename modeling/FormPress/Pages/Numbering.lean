/-
  FormPress.Pages.Numbering

  The numbers of section headings. A counter runs through the document: most
  sections show it and move it on, some only move it on, some do neither.
-/
import FormPress.Form.Schema

namespace FormPress

/-- What a section does with the counter of headings. -/
inductive Numbering where
  /-- shows the counter and moves it on -/
  | numbered
  /-- moves the counter on without showing it -/
  | counted
  /-- leaves the counter alone -/
  | skipped
  deriving DecidableEq, Repr

/-- Declarations show a number only on the final declaration and for office use. -/
def DeclarationKind.numbering : DeclarationKind → Numbering
  | .finalDeclaration => .numbered
  | .officeUse => .numbered
  | .signature => .skipped
  | .generic => .skipped

/-- What a section does with the counter, in a step whose sections are numbered. -/
def Section.numbering (s : Section) : Numbering :=
  match s.mode with
  | .reasonableAdjustment => .counted
  | .declarations => s.effectiveKind.numbering
  | _ => .numbered

/-- The number that a section shows, and the counter after it. -/
def headingNumber (s : Section) (counter : Int) (inNumberedStep : Bool) : Option Int × Int :=
  if inNumberedStep then
    match s.numbering with
    | .numbered => (some counter, counter + 1)
    | .counted => (none, counter + 1)
    | .skipped => (none, counter)
  else (none, counter)

/-- The numbers of sections in document order, and the counter after them; each section comes
    with whether its step is numbered. -/
def headingNumbers : List (Section × Bool) → Int → List (Option Int) × Int
  | [], counter => ([], counter)
  | (s, numbered) :: rest, counter =>
    let (number, counter) := headingNumber s counter numbered
    let (numbers, counter) := headingNumbers rest counter
    (number :: numbers, counter)

end FormPress
