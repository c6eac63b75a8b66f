/-
  FormPress.Document.Page

  A page of markup around some content: the head with the style sheet, and the
  body.
-/
import FormPress.Document.Style
import FormPress.Html.Basic

namespace FormPress.Html

/-- The head of every page. -/
def pageHead : List Html :=
  block 0 "head" []
    (line 0 [lone "meta" [attr "charset" "UTF-8"] .plain] ++ line 0 [style styleSheet])

/-- A page with some content. -/
def page (content : List Html) : List Html :=
  [doctype, eol, spanning 0 "html" [] (pageHead ++ block 0 "body" [] content)]

end FormPress.Html
