/-
  FormPress.Section.Context

  What a section's layout knows of the step around it: its title, whether the
  step is the learner evaluation, and where among its rating tables the section
  stands.
-/
import FormPress.Form.Schema
import FormPress.Profile.Basic

namespace FormPress

/-- A section's surroundings. -/
structure SectionContext where
  stepTitle : String := ""
  learnerEvaluation : Bool := false
  showLearnerIntro : Bool := false
  likertIndex : Int := 0
  lastLikert : Bool := false
  deriving Repr, DecidableEq, Inhabited

/-! ## The appendix on adjustments -/

/-- Whether a text goes on with the letter a as a word's end, after white space or none. -/
def letterAEnds (s : List Char) : Bool :=
  match s.dropWhile Text.isBlank with
  | c :: rest => Text.sameLetter 'a' c && Text.atWordEnd rest
  | [] => false

/-- Whether a text begins with the name of appendix A, in any case. -/
def startsAppendixA (s : List Char) : Bool :=
  match Text.dropIgnoringCase "appendix".toList s with
  | some rest => letterAEnds rest
  | none => false

/-- Whether the step is the appendix on adjustments, going by its title. -/
def SectionContext.appendixA (c : SectionContext) : Bool :=
  (Text.splitAtFirst startsAppendixA c.stepTitle.toList).isSome

/-! ## Contexts of a step's sections -/

/-- Whether a step is the learner evaluation: its title is the profile's, spaces around it and
    case apart. -/
def Profile.isLearnerEvaluation (p : Profile) (s : StepNode) : Bool :=
  Text.lower (Text.trim s.step.title) == Text.lower (Text.trim p.evaluation.stepTitle)

/-- The contexts of the sections from index `i` on; `before` counts the rating tables so far. -/
def sectionContextsFrom (title : String) (evaluation : Bool) (i before : Nat) :
    List SectionNode → List SectionContext
  | [] => []
  | n :: rest =>
    let isLikert := n.header.mode == .likertTable
    { stepTitle := title
      learnerEvaluation := evaluation
      showLearnerIntro := evaluation && i == 0
      likertIndex := if isLikert then before else 0
      lastLikert := isLikert && !rest.any (fun m => m.header.mode == .likertTable) } ::
    sectionContextsFrom title evaluation (i + 1) (if isLikert then before + 1 else before) rest

/-- The contexts of a step's sections. -/
def Profile.sectionContexts (p : Profile) (s : StepNode) : List SectionContext :=
  sectionContextsFrom s.step.title (p.isLearnerEvaluation s) 0 0 s.sections

end FormPress
