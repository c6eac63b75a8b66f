/-
  FormPress.Print.Scan

  Finding the pages of a printed file by the marks that name each of them in a
  document that is not compressed.
-/
import FormPress.Print.Pdf

namespace FormPress.Pdf

/-- What every printed file begins with. -/
def fileStart : List Char := "%PDF-".toList

/-- What stands at the start of a page. -/
def pageMarks : List (List Char) := ["/Type /Page".toList, "/Type/Page".toList]

/-- The text after a mark of a page. A mark that goes on with a letter names something else. -/
def afterMark? (s : List Char) : Option (List Char) :=
  match pageMarks.find? fun mark => mark.isPrefixOf s with
  | some mark =>
    let rest := s.drop mark.length
    if (rest.head?.map Char.isAlpha).getD false then none else some rest
  | none => none

/-- How many marks of pages stand in a text. -/
def countMarks : List Char → Nat
  | [] => 0
  | c :: s => (if (afterMark? (c :: s)).isSome then 1 else 0) + countMarks s

/-- The document in a file. The widths of its pages are not looked for. -/
def ofFile (content : List Char) : Pdf :=
  if fileStart.isPrefixOf content then .pages (List.replicate (countMarks content) 0)
  else .unreadable

end FormPress.Pdf
