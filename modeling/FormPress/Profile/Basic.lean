/-
  FormPress.Profile.Basic

  A profile: the fixed wording of the documents of one organisation. Every
  field has a default, which stands where a profile file leaves it out.
-/
import FormPress.Data.Table

namespace FormPress

/-- The organisation as it appears in the running header. -/
structure OrganisationProfile where
  name : String := ""
  brandTitle : String := ""
  brandSubtitle : String := ""
  addressLines : List String := []
  email : String := ""
  phone : String := ""
  deriving Repr, Inhabited, DecidableEq

/-- The wording of the cover. -/
structure CoverProfile where
  bandTitle : String := "STUDENT WORKBOOK"
  unitCodePlaceholder : String := "Unit Code"
  unitTitlePlaceholder : String := "Unit Title"
  deriving Repr, Inhabited, DecidableEq

/-- A block of the introduction. -/
structure IntroBlock where
  heading : String := ""
  level : Int := 3
  paragraphs : List String := []
  bullets : List String := []
  deriving Repr, Inhabited, DecidableEq

/-- The introduction page. -/
structure IntroProfile where
  title : String := "Student Pack"
  blocks : List IntroBlock := []
  deriving Repr, Inhabited, DecidableEq

/-- The wording of rating tables. -/
structure LikertProfile where
  scaleLabels : List String :=
    ["Strongly Disagree", "Disagree", "Neutral", "Agree", "Strongly Agree"]
  numberHeader : String := "No."
  criteriaHeader : String := "Criteria/Question"
  deriving Repr, Inhabited, DecidableEq

/-- A matrix of the appendix on adjustments: each cell is a list of lines. -/
structure AppendixMatrix where
  columns : List String := []
  rows : List (List (List String)) := []
  deriving Repr, Inhabited, DecidableEq

/-- The wording of sections on reasonable adjustment. -/
structure AdjustmentProfile where
  heading : String := "Reasonable Adjustment"
  splitMarker : String := "In the case that"
  appliedLabel : String := "Was reasonable adjustment applied to any of these assessment tasks?"
  taskLabel : String := "If yes, which assessment task was this applied to?"
  descriptionLabel : String := "Provide a description of the adjustment applied and explain reasons."
  signatureLabel : String := "Trainer Signature:"
  dateLabel : String := "Date:"
  appendixTitle : String := "Appendix A – Reasonable Adjustments"
  appendixTaskBar : String := ""
  appendixGuidanceBar : String := "Reasonable Adjustments"
  appendixGuidance : List String := []
  appendixMatrices : List AppendixMatrix := []
  appendixStrategiesBar : String := ""
  appendixExplanationBar : String := ""
  appendixDeclaration : String := ""
  deriving Repr, Inhabited, DecidableEq

/-- The wording of the appendix in which learners evaluate their training. -/
structure EvaluationProfile where
  stepTitle : String := "Learner Evaluation"
  participantSectionTitle : String := "Participant Information"
  title : String := "Appendix B - Learner Evaluation Form"
  intro : String := ""
  bullets : List String := []
  closing : String := ""
  deriving Repr, Inhabited, DecidableEq

/-- The wording of declarations. -/
structure DeclarationProfile where
  officeSpanner : String := "Other"
  studentNameLabel : String := "Student Name"
  trainerNameLabel : String := "Trainer/Assessor Name"
  dateLabel : String := "Date"
  deriving Repr, Inhabited, DecidableEq

/-- The wording of assessment sections. -/
structure AssessmentProfile where
  evidenceHeader : String := "Evidence number"
  methodHeader : String := "Assessment method/ Type of evidence"
  describeHint : String := "(Please describe here)"
  deriving Repr, Inhabited, DecidableEq

/-- The wording of a document. -/
structure Profile where
  schemaVersion : String := "1.0"
  organisation : OrganisationProfile := {}
  cover : CoverProfile := {}
  intro : IntroProfile := {}
  groupTitles : Table String String := []
  fallbackGroupTitle : String := "Other"
  likert : LikertProfile := {}
  assessment : AssessmentProfile := {}
  adjustment : AdjustmentProfile := {}
  evaluation : EvaluationProfile := {}
  declarations : DeclarationProfile := {}
  deriving Repr, Inhabited, DecidableEq

namespace Profile

/-- The title of the table group for a prefix of codes. -/
def groupTitle (p : Profile) (codePrefix : String) : String :=
  (p.groupTitles.get? codePrefix).getD p.fallbackGroupTitle

end Profile

end FormPress
