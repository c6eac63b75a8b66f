/-
  FormPress.Section.Fragment

  A section as it stands in the document: its layout chosen by the mode of the
  section, put under its heading and, in the learner evaluation, under the
  introduction of the appendix.
-/
import FormPress.Section.Adjustment
import FormPress.Section.Declaration
import FormPress.Section.Grid

namespace FormPress

/-! ## Views -/

/-- What a section shows, in one of the layouts. -/
inductive SectionView where
  | details (v : DetailView)
  | participant (v : ParticipantView)
  | likert (v : LikertView)
  | grid (v : GridView)
  | tasks (v : TasksView)
  | submission (v : SubmissionView)
  | adjustment (v : AdjustmentView)
  | declaration (v : DeclarationView)
  deriving Repr, Inhabited

namespace SectionView

/-- Whether the section holds the details of a participant of the learner evaluation. -/
def isParticipantSection (n : SectionNode) (p : Profile) (c : SectionContext) : Bool :=
  c.learnerEvaluation && Text.trim n.header.title == p.evaluation.participantSectionTitle

/-- What a section shows. -/
def ofSection (n : SectionNode) (answers : AnswerBook) (p : Profile) (c : SectionContext) :
    SectionView :=
  if isParticipantSection n p c then .participant (.ofSection n answers)
  else
    match n.header.mode with
    | .normal => .details (.ofSection n answers p)
    | .likertTable => .likert (.ofSection n answers p c)
    | .gridTable => .grid (.ofSection n answers)
    | .assessmentTasks => .tasks (.ofSection n p)
    | .assessmentSubmission => .submission (.ofSection n answers p)
    | .reasonableAdjustment => .adjustment (.ofSection n answers p c)
    | .declarations => .declaration (.ofSection n answers p)

/-- The markup of a view. -/
def body : SectionView → List Html
  | details v => Html.detailBody v
  | participant v => Html.participantBody v
  | likert v => Html.likertBody v
  | grid v => Html.gridBody v
  | tasks v => Html.tasksBody v
  | submission v => Html.submissionBody v
  | adjustment v => Html.adjustmentBody v
  | declaration v => Html.declarationBody v

end SectionView

/-! ## Headings -/

/-- The heading of a numbered section. -/
structure Heading where
  number : Int
  title : String
  description : Option String
  bar : Bool
  deriving Repr, Inhabited

namespace Heading

/-- The heading of a section, if it has a number; declarations have theirs in a bar. -/
def ofSection (s : Section) (number : Option Int) : Option Heading :=
  number.map fun k => ⟨k, s.title, s.description, s.mode == .declarations⟩

/-- The text of a heading. -/
def text (h : Heading) : String := toString h.number ++ ". " ++ h.title

end Heading

namespace Html

/-- A heading, and the description of its section. -/
def heading (h : Heading) : List Html :=
  (if h.bar then leaf 0 "div" (cls "decl-heading-bar") h.text else leaf 0 "h3" [] h.text) ++
    (match h.description with
      | some s => given (s != "") (line 0 [element "p" (cls "section-description") [rich s]])
      | none => [])

/-- A paragraph, unless it is empty. -/
def maybeParagraph (depth : Nat) (s : String) : List Html := given (s != "") (leaf depth "p" [] s)

/-- A list of texts, unless it is empty. -/
def maybeBullets (depth : Nat) (items : List String) : List Html :=
  given (!items.isEmpty) (block depth "ul" [] (items.flatMap (leaf (depth + 1) "li" [])))

/-- The introduction of the learner evaluation. -/
def learnerIntro (e : EvaluationProfile) : List Html :=
  block 0 "div" (cls "learner-eval-intro")
    (leaf 1 "div" (cls "appendix-title-bar") e.title ++
      maybeParagraph 1 e.intro ++ maybeBullets 1 e.bullets ++ maybeParagraph 1 e.closing)

end Html

/-! ## Fragments -/

/-- A section of the document. -/
structure SectionFragment where
  sectionId : Int
  mode : SectionMode
  headingNumber : Option Int
  view : SectionView
  content : Html
  deriving Repr, Inhabited

namespace SectionFragment

/-- The fragment of a section under a heading number and in its surroundings. -/
def ofSection (n : SectionNode) (answers : AnswerBook) (p : Profile) (number : Option Int)
    (c : SectionContext) : SectionFragment :=
  let view := SectionView.ofSection n answers p c
  let mode := n.header.mode
  let intro := Html.given c.showLearnerIntro (Html.learnerIntro p.evaluation)
  let heading := ((Heading.ofSection n.header number).map Html.heading).getD []
  { sectionId := n.header.id
    mode := mode
    headingNumber := number
    view := view
    content := .element "div"
      [⟨"class", [.fixed "section section-", .value mode.word]⟩,
        Html.attrOf "data-section-id" (toString n.header.id)]
      (Html.eol :: intro ++ heading ++ view.body) }

/-- The markup of a fragment as it is written. -/
def html (f : SectionFragment) : String := f.content.render

end SectionFragment

end FormPress
