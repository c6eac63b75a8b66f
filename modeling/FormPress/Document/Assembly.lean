/-
  FormPress.Document.Assembly

  The printed document: the first page of the cover pass and all pages of the
  body pass.
-/
import FormPress.Document.Plan
import FormPress.Print.Backend

namespace FormPress

/-- A step of printing: it moves a backend on, may leave notes and may fail. -/
abbrev Printing (σ α : Type) := ExceptT Failure (StateM (σ × List LogEntry)) α

namespace Printing

variable {σ : Type}

/-- Prints one pass. -/
def pass (backend : Backend σ) (html : String) (options : PrintOptions) : Printing σ PageRange :=
  fun (state, log) =>
    let printed := backend.print html options state
    (printed.result, (printed.state, log ++ printed.log))

/-- Leaves a note. -/
def note (entry : LogEntry) : Printing σ Unit := fun (state, log) =>
  (.ok (), (state, log ++ [entry]))

end Printing

/-- The warning about a cover of more than one page. -/
def coverOverflow (count : Int) : LogEntry :=
  .warning ("封面溢出为 " ++ toString count ++ " 页，只保留第1页")

/-- The warning about a body with fewer pages than groups. -/
def bodyShortage (count expected : Int) : LogEntry :=
  .warning ("正文页数少于分页组数: " ++ toString count ++ " < " ++ toString expected)

namespace DocumentPlan

variable {σ : Type}

/-- Prints the cover and keeps its first page. -/
def printCover (plan : DocumentPlan) (backend : Backend σ) : Printing σ PageRange := do
  let cover ← Printing.pass backend plan.coverHtml plan.coverOptions
  if 1 < cover.pageCount then
    Printing.note (coverOverflow cover.pageCount)
    (cover.take 1 : Except Failure PageRange)
  else return cover

/-- The number of pages that a body has at least. -/
def expectedPages (plan : DocumentPlan) : Int := plan.introPageCount + plan.pages.length

/-- Prints the introduction and the body. -/
def printBody (plan : DocumentPlan) (backend : Backend σ) : Printing σ PageRange := do
  let body ← Printing.pass backend plan.bodyHtml plan.bodyOptions
  if body.pageCount < plan.expectedPages then
    Printing.note (bodyShortage body.pageCount plan.expectedPages)
  return body

/-- Prints a document. -/
def print (plan : DocumentPlan) (backend : Backend σ) : Printing σ Pdf := do
  let cover ← plan.printCover backend
  let body ← plan.printBody backend
  (PageRange.merge [cover, body] : Except Failure Pdf)

end DocumentPlan

end FormPress
