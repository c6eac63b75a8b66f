/-
  FormPress.Document.Plan

  A document as two passes of printing: the cover without a running header, and
  the introduction and the body with one. Logos are looked for while a plan is
  made, so making it may load some and may warn (`DocumentMaker.plan`).
-/
import FormPress.Document.Body
import FormPress.Document.Running
import FormPress.Logos.Shelf
import FormPress.Print.Options

namespace FormPress

/-- A document ready to be printed. -/
structure DocumentPlan where
  cover : Cover
  coverHtml : String
  coverOptions : PrintOptions
  bodyHtml : String
  bodyOptions : PrintOptions
  pages : List BodyPage
  introPageCount : Int
  deriving Repr, Inhabited

/-- The heading numbers shown, in document order. -/
def DocumentPlan.headingNumbers (p : DocumentPlan) : List Int :=
  p.pages.flatMap fun page => page.fragments.filterMap (·.headingNumber)

/-- The label of the pass that prints the cover. -/
def coverLabel : String := "cover"

/-- The label of the pass that prints the body. -/
def bodyLabel : String := "body"

/-! ## Making plans -/

/-- What documents are made with. -/
structure DocumentMaker where
  profile : Profile
  settings : Settings
  files : Files
  deriving Inhabited

/-- A step of making a document: it may load logos, may warn and may fail. -/
abbrev Making := ExceptT Failure (StateM (Shelf × List LogEntry))

namespace DocumentMaker

variable (maker : DocumentMaker)

/-- The maker with the files as they are by now. -/
def seeing (files : Files) : DocumentMaker := { maker with files := files }

/-- Looks for a logo. -/
def search (find : Files → AssetSettings → Shelf → Found) : Making (Option String) :=
  fun (shelf, log) =>
    let found := find maker.files maker.settings.assets shelf
    (found.image, (found.shelf, log ++ found.log))

/-- The crest of a form: its own, else the default one. -/
def crest (form : Form) : Making (Option String) :=
  match form.headerImage with
  | some s => if s == "" then maker.search Shelf.crest else pure (some s)
  | none => maker.search Shelf.crest

/-- The pages of the body, and the counter of headings after them. -/
def pages (answers : AnswerBook) (groups : List PageGroup) (start : Int := 1) :
    List BodyPage × Int :=
  bodyPages answers maker.profile groups start

/-- The cover. -/
def cover (s : Snapshot) (answers : AnswerBook) : Making Cover := do
  let crest ← maker.crest s.form
  return .compose s.form answers maker.profile.cover crest

/-- The running header. -/
def header (s : Snapshot) : Making RunningHeader := do
  let crest ← maker.crest s.form
  let logo ← maker.search Shelf.textLogo
  return ⟨crest, logo⟩

/-- The options of the pass that prints the cover. -/
def coverOptions : PrintOptions :=
  { label := coverLabel
    paperFormat := maker.settings.page.paperFormat
    margins := maker.settings.page.coverMargins }

/-- The options of the pass that prints the body. -/
def bodyOptions (header : RunningHeader) (footer : RunningFooter) : PrintOptions :=
  { label := bodyLabel
    paperFormat := maker.settings.page.paperFormat
    margins := maker.settings.page.bodyMargins
    showsHeaderFooter := true
    header := (Html.runningHeader header maker.profile.organisation).render
    footer := (Html.runningFooter footer).render }

/-- The plan of a document whose pages and cover are made. -/
def assemble (s : Snapshot) (answers : AnswerBook) (pages : List BodyPage) (cover : Cover) :
    Making DocumentPlan := do
  let header ← maker.header s
  return {
    cover := cover
    coverHtml := cover.html maker.profile.organisation
    coverOptions := maker.coverOptions
    bodyHtml := Html.renderAll (Html.documentBody maker.profile.intro pages)
    bodyOptions := maker.bodyOptions header (.compose s.form answers)
    pages := pages
    introPageCount := 1 }

/-- The plan of a document. -/
def plan (s : Snapshot) : Making DocumentPlan := do
  let answers := AnswerBook.ofSnapshot s
  let (pages, _) := maker.pages answers (PageGroup.plan s.steps)
  let cover ← maker.cover s answers
  maker.assemble s answers pages cover

end DocumentMaker

end FormPress
