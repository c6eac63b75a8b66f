/-
  FormPress.Document.Running

  The header and the footer that run through the body.
-/
import FormPress.Document.Cover

namespace FormPress

/-! ## What they say -/

/-- A running header: its logos. -/
structure RunningHeader where
  crest : Option String
  textLogo : Option String
  deriving Repr, DecidableEq, Inhabited

/-- A running footer. -/
structure RunningFooter where
  version : String
  unitCode : String
  deriving Repr, DecidableEq, Inhabited

/-- The footer of a form with some answers. -/
def RunningFooter.compose (form : Form) (answers : AnswerBook) : RunningFooter :=
  { version := firstGiven [form.version.getD "", "1"]
    unitCode := firstGiven [answers.codeText ["unit.code"], form.unitCode.getD ""] }

/-! ## Their markup -/

namespace Html

/-- A fixed look. -/
def look (rules : String) : Attr := attr "style" rules

/-- The name of the organisation in large letters. -/
def brandName (o : OrganisationProfile) : List Html :=
  block 2 "div" [look "display:flex;flex-direction:column;align-items:center;"]
    (leaf 3 "span" [look "font-size:22pt;font-weight:700;color:#f97316;letter-spacing:2px;"]
      o.brandTitle ++
    leaf 3 "span"
      [look "font-size:9pt;font-weight:600;color:#374151;letter-spacing:2px;margin-top:2px;"]
      o.brandSubtitle)

/-- The text logo, or the name of the organisation in its place. -/
def brand (h : RunningHeader) (o : OrganisationProfile) : List Html :=
  let logo := picture h.textLogo [.value o.brandTitle, .fixed " ", .value o.brandSubtitle]
    [look "height:100px;width:auto;object-fit:contain;display:block;"]
  if logo.isEmpty then brandName o else line 2 logo

/-- The address of the organisation. -/
def address (o : OrganisationProfile) : List Html :=
  o.addressLines.flatMap (fun s => [text s, lone "br" [] .slash]) ++
    given (o.email != "")
      [text "Email: ",
        element "a" [⟨"href", [.fixed "mailto:", .value o.email]⟩,
          look "color:#2563eb;text-decoration:underline;"] [text o.email],
        lone "br" [] .slash] ++
    given (o.phone != "") [text "Phone: ", text o.phone]

/-- The running header. -/
def runningHeader (h : RunningHeader) (o : OrganisationProfile) : Html :=
  spanning 0 "div"
    [look "position:relative;width:100%;min-height:165px;box-sizing:border-box;font-family:'Calibri','Calibri Light',Arial,sans-serif;font-weight:400;line-height:1.05;"]
    (line 1 [element "div" [look "height:165px;min-height:165px;width:0;overflow:hidden;"] []] ++
      line 1 [element "div"
        [look "position:absolute;left:15mm;right:15mm;top:110px;border-top:1px solid #8b95a5;z-index:0;"]
        []] ++
      block 1 "div" [look "position:absolute;left:15mm;top:0px;z-index:1;"]
        (picture h.crest [.value o.name]
          [look "width:210px;height:165px;object-fit:contain;display:block;"]) ++
      block 1 "div" [look "position:absolute;left:50%;top:18px;transform:translateX(-50%);z-index:1;"]
        (brand h o) ++
      block 1 "div"
        [look "position:absolute;right:15mm;top:8px;width:260px;font-size:11pt;color:#374151;text-align:right;line-height:1.25;font-weight:300;z-index:1;"]
        (address o))

/-- The running footer; the browser fills in the page numbers. -/
def runningFooter (f : RunningFooter) : Html :=
  spanning 0 "div"
    [look "font-size:9pt;color:#374151;width:100%;height:50px;display:flex;justify-content:space-between;align-items:center;padding:0 15mm;box-sizing:border-box;"]
    (leaf 1 "span" [] ("Version Number: " ++ f.version) ++
      leaf 1 "span" [] ("Unit Code: " ++ f.unitCode) ++
      line 1 [element "span" []
        [text "Page ", element "span" (cls "pageNumber") [], text " of ",
          element "span" (cls "totalPages") []]])

end Html

end FormPress
