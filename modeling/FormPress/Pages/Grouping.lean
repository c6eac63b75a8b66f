/-
  FormPress.Pages.Grouping

  Which steps share a page. A step about the student and the trainer and the
  step about the qualification right after it share one; any other step has a
  page of its own. Groups are formed greedily from the front.
-/
import FormPress.Form.Schema

namespace FormPress

/-- The steps of one page. -/
inductive PageGroup where
  | single (step : StepNode)
  | pair (first second : StepNode)
  deriving Repr, Inhabited

/-- Whether a title names both the student and the trainer. -/
def isStudentTrainerTitle (title : String) : Bool :=
  let lowered := Text.lower title
  Text.contains lowered "student" && Text.contains lowered "trainer"

/-- Whether a title names the qualification. -/
def isQualificationTitle (title : String) : Bool :=
  Text.contains (Text.lower title) "qualification"

/-- Whether two steps share a page when they follow each other. -/
def sharePage (a b : StepNode) : Bool :=
  isStudentTrainerTitle a.step.title && isQualificationTitle b.step.title

namespace PageGroup

/-- The steps of a group in order. -/
def steps : PageGroup → List StepNode
  | single a => [a]
  | pair a b => [a, b]

/-- The titles of the steps in order. -/
def titles (g : PageGroup) : List String := g.steps.map (·.step.title)

/-- The groups of a list of steps. -/
def plan : List StepNode → List PageGroup
  | [] => []
  | [a] => [single a]
  | a :: b :: rest =>
    if sharePage a b then pair a b :: plan rest else single a :: plan (b :: rest)

end PageGroup

end FormPress
