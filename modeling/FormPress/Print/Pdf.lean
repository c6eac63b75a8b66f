/-
  FormPress.Print.Pdf

  Printed pages. Of a page only its width matters here; a document is a list of
  pages, or cannot be read. Ranges of pages are cut (`PageRange.take`) and joined
  (`PageRange.merge`); a range says itself how many pages it has.
-/
import FormPress.Failure

namespace FormPress

/-- A printed document. -/
inductive Pdf where
  | pages (widths : List Int)
  | unreadable
  deriving Repr, DecidableEq, Inhabited

/-- A width as a whole number; a half goes to the even one of its neighbours. -/
def roundedWidth (width : Number) : Int :=
  match width.real with
  | .finite n d =>
    let low := n / d
    match compare (2 * (n - low * d)) d with
    | .lt => low
    | .gt => low + 1
    | .eq => if low % 2 == 0 then low else low + 1
  | _ => 0

/-- A failure with pages. -/
def pageFailure (fault : PageFault) : Failure := .engine (.pages fault)

namespace Pdf

/-- The number of pages. -/
def count : Pdf → Except Failure Nat
  | pages widths => .ok widths.length
  | unreadable => .error (pageFailure .unreadable)

end Pdf

/-- Printed pages under a label, with the number of pages that they are said to have. -/
structure PageRange where
  label : String
  pdf : Pdf
  pageCount : Int
  deriving Repr, DecidableEq, Inhabited

/-- The first elements of a list; for a negative count, all but so many at the end. -/
def takeSigned {α : Type} (count : Int) (xs : List α) : List α :=
  if 0 ≤ count then xs.take count.toNat else xs.take (xs.length - (-count).toNat)

namespace PageRange

/-- The first pages of a range; a range that has no more of them stays as it is. -/
def take (r : PageRange) (count : Int) : Except Failure PageRange :=
  if r.pageCount ≤ count then .ok r
  else
    match r.pdf with
    | .pages widths => .ok ⟨r.label, .pages (takeSigned count widths), count⟩
    | .unreadable => .error (pageFailure (.cut r.label))

/-- The pages of some ranges in order. -/
def merge : List PageRange → Except Failure Pdf
  | [] => .ok (.pages [])
  | r :: rest =>
    match r.pdf with
    | .unreadable => .error (pageFailure (.join r.label))
    | .pages widths =>
      match merge rest with
      | .ok (.pages others) => .ok (.pages (widths ++ others))
      | .ok .unreadable => .ok .unreadable
      | .error e => .error e

end PageRange

end FormPress
