/-
  FormPress.Document.Cover

  The cover: what it says, chosen from answers, the form and the profile, and
  its markup.
-/
import FormPress.Answers.Book
import FormPress.Document.Page
import FormPress.Profile.Basic

namespace FormPress

/-! ## What the cover says -/

/-- The first text that is not empty, or nothing. -/
def firstGiven (texts : List String) : String := (texts.find? (· != "")).getD ""

/-- A cover. -/
structure Cover where
  unitCode : String
  unitTitle : String
  studentName : String
  studentId : String
  crest : Option String
  picture : Option String
  bandTitle : String
  deriving Repr, DecidableEq, Inhabited

namespace Cover

/-- The unit's code and title on one line. -/
def unitText (c : Cover) : String :=
  " ".intercalate ([c.unitCode, c.unitTitle].filter (· != ""))

/-- The cover of a form with some answers. The unit's code is that of the answers, else that of the
    form; its title comes from the answers, the unit, the qualification or the form. -/
def compose (form : Form) (answers : AnswerBook) (wording : CoverProfile) (crest : Option String) :
    Cover :=
  { unitCode := firstGiven [answers.codeText ["unit.code"], Text.trim (form.unitCode.getD ""),
      wording.unitCodePlaceholder]
    unitTitle := firstGiven [answers.codeText ["unit.name", "qualification.name"],
      form.unitName.getD "", form.qualificationName.getD "", form.name,
      wording.unitTitlePlaceholder]
    studentName := answers.codeText ["student.fullName"]
    studentId := answers.codeText ["student.id"]
    crest := crest
    picture := form.coverImage
    bandTitle := wording.bandTitle }

end Cover

/-! ## Its markup -/

namespace Html

/-- A picture with the address and the substitute text given, if there is an address. -/
def picture (address : Option String) (substitute : List AttrPart) (look : List Attr) : List Html :=
  match address with
  | some s =>
    given (s != "")
      [lone "img" ([attrOf "src" s, ⟨"alt", substitute⟩] ++ look) .spacedSlash]
  | none => []

/-- The attributes of the picture behind the cover. -/
def coverPicture (address : Option String) : List Attr :=
  match address with
  | some s =>
    if s == "" then []
    else [⟨"style", [.fixed "background-image:url('", .value s, .fixed "')"]⟩]
  | none => []

/-- The wave across the cover. -/
def coverWave : List Html :=
  block 1 "div" (cls "cover-wave")
    (block 2 "svg" [attr "viewBox" "0 0 1200 300", attr "preserveAspectRatio" "none"]
      (line 3 [lone "path" [attr "fill" "#b0b8c0",
        attr "d" "M0,70 C300,70 350,240 600,230 C850,240 1150,70 1200,70 L1200,300 L0,300 Z"]
        .slash]))

/-- A row of the box about the student. -/
def studentRow (label value : String) : List Html :=
  block 3 "tr" []
    (leaf 4 "td" (cls "cover-student-label") label ++
      line 4 [element "td" [] [element "span" (cls "cover-student-line") [text value]]])

/-- The content of the cover page. -/
def coverBody (c : Cover) (o : OrganisationProfile) : List Html :=
  block 0 "div" [attr "class" "cover-page", attr "data-page" "cover"]
    (line 1 [element "div" (cls "cover-image" ++ coverPicture c.picture) []] ++
      block 1 "div" (cls "cover-logo") (picture c.crest [.value o.name] []) ++
      line 1 [element "div" (cls "cover-band") [element "h1" [] [text c.bandTitle]]] ++
      line 1 [element "div" (cls "cover-grey") []] ++
      coverWave ++
      block 1 "div" (cls "cover-unit") (leaf 2 "div" (cls "cover-unit-text") c.unitText) ++
      block 1 "div" (cls "cover-student-box")
        (block 2 "table" (cls "cover-student-table")
          (studentRow "Student Name:" c.studentName ++ studentRow "Student ID:" c.studentId)))

end Html

/-- The page of a cover. -/
def Cover.page (c : Cover) (o : OrganisationProfile) : List Html := Html.page (Html.coverBody c o)

/-- The page of a cover as it is written. -/
def Cover.html (c : Cover) (o : OrganisationProfile) : String := Html.renderAll (c.page o)

end FormPress
