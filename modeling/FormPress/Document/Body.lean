/-
  FormPress.Document.Body

  The body of a document: the introduction, and a page for every group of
  steps with the fragments of its sections in document order. The counter of
  headings runs through all pages.
-/
import FormPress.Document.Page
import FormPress.Pages.Grouping
import FormPress.Pages.Numbering
import FormPress.Section.Fragment

namespace FormPress

/-! ## Pages -/

/-- A page of the body. -/
structure BodyPage where
  titles : List String
  fragments : List SectionFragment
  deriving Repr, Inhabited

/-- The sections of a step, each with whether the step's sections are numbered. -/
def Profile.numberedSections (p : Profile) (s : StepNode) : List (Section × Bool) :=
  s.sections.map fun n => (n.header, !p.isLearnerEvaluation s)

/-- The sections of a step in their surroundings. -/
def Profile.placedSections (p : Profile) (s : StepNode) : List (SectionNode × SectionContext) :=
  s.sections.zip (p.sectionContexts s)

/-- The fragments of some sections with the numbers given; the numbers left over. -/
def fragmentsOf (answers : AnswerBook) (p : Profile) :
    List (SectionNode × SectionContext) → List (Option Int) →
      List SectionFragment × List (Option Int)
  | (n, c) :: rest, number :: numbers =>
    let (fragments, left) := fragmentsOf answers p rest numbers
    (.ofSection n answers p number c :: fragments, left)
  | _, numbers => ([], numbers)

/-- The pages of some groups with the numbers given. -/
def bodyPagesFrom (answers : AnswerBook) (p : Profile) :
    List PageGroup → List (Option Int) → List BodyPage
  | [], _ => []
  | g :: groups, numbers =>
    let (fragments, left) := fragmentsOf answers p (g.steps.flatMap p.placedSections) numbers
    ⟨g.titles, fragments⟩ :: bodyPagesFrom answers p groups left

/-- The pages of some groups, and the counter of headings after them. -/
def bodyPages (answers : AnswerBook) (p : Profile) (groups : List PageGroup) (start : Int) :
    List BodyPage × Int :=
  let sections := (groups.flatMap PageGroup.steps).flatMap p.numberedSections
  let (numbers, counter) := headingNumbers sections start
  (bodyPagesFrom answers p groups numbers, counter)

/-! ## Markup -/

namespace Html

/-- A block of the introduction. -/
def introBlock (b : IntroBlock) : List Html :=
  given (b.heading != "") (leaf 1 ("h" ++ toString b.level) [] b.heading) ++
    b.paragraphs.flatMap (leaf 1 "p" []) ++ maybeBullets 1 b.bullets

/-- The introduction. -/
def introPage (i : IntroProfile) : Html :=
  spanning 0 "div" [attr "class" "step-page intro-page", attr "data-page" "intro"]
    (leaf 1 "h2" (cls "intro-title") i.title ++ i.blocks.flatMap introBlock)

/-- A page of the body. -/
def bodyPage (p : BodyPage) : List Html :=
  block 0 "div" [attr "class" "step-page", attr "data-page" "body"]
    (p.fragments.flatMap fun f => [f.content, eol])

/-- The body of a document. -/
def documentBody (i : IntroProfile) (pages : List BodyPage) : List Html :=
  page (introPage i :: pages.flatMap bodyPage)

end Html

end FormPress
