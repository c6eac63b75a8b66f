/-
  FormPress.Profile.Read

  Reading a profile out of a data value.
-/
import FormPress.Profile.Basic
import FormPress.Record.Field

namespace FormPress

/-- A text with a default. -/
def Fields.textOr (fields : Fields) (name default : String) : Check String :=
  fields.optional name Read.text default

/-- A list of texts with a default. -/
def Fields.textsOr (fields : Fields) (name : String) (default : List String) :
    Check (List String) :=
  fields.optional name Read.texts default

/-- A part of a profile with a default. -/
def Fields.partOr {α : Type} (fields : Fields) (name : String) (read : Fields → Check α)
    (default : α) : Check α :=
  fields.optional name (Read.record read) default

/-- Reads the organisation. -/
def OrganisationProfile.read (f : Fields) : Check OrganisationProfile :=
  let d : OrganisationProfile := {}
  OrganisationProfile.mk <$> f.textOr "name" d.name
    <*> f.textOr "brand_title" d.brandTitle
    <*> f.textOr "brand_subtitle" d.brandSubtitle
    <*> f.textsOr "address_lines" d.addressLines
    <*> f.textOr "email" d.email
    <*> f.textOr "phone" d.phone

/-- Reads the wording of the cover. -/
def CoverProfile.read (f : Fields) : Check CoverProfile :=
  let d : CoverProfile := {}
  CoverProfile.mk <$> f.textOr "band_title" d.bandTitle
    <*> f.textOr "unit_code_placeholder" d.unitCodePlaceholder
    <*> f.textOr "unit_title_placeholder" d.unitTitlePlaceholder

/-- Reads a block of the introduction. -/
def IntroBlock.read (f : Fields) : Check IntroBlock :=
  let d : IntroBlock := {}
  IntroBlock.mk <$> f.textOr "heading" d.heading
    <*> f.optional "level" Read.whole d.level
    <*> f.textsOr "paragraphs" d.paragraphs
    <*> f.textsOr "bullets" d.bullets

/-- Reads the introduction. -/
def IntroProfile.read (f : Fields) : Check IntroProfile :=
  let d : IntroProfile := {}
  IntroProfile.mk <$> f.textOr "title" d.title
    <*> f.optional "blocks" (Read.listOf (Read.record IntroBlock.read)) d.blocks

/-- Reads the wording of rating tables. -/
def LikertProfile.read (f : Fields) : Check LikertProfile :=
  let d : LikertProfile := {}
  LikertProfile.mk <$> f.textsOr "scale_labels" d.scaleLabels
    <*> f.textOr "number_header" d.numberHeader
    <*> f.textOr "criteria_header" d.criteriaHeader

/-- Reads a matrix of the appendix on adjustments. -/
def AppendixMatrix.read (f : Fields) : Check AppendixMatrix :=
  let d : AppendixMatrix := {}
  AppendixMatrix.mk <$> f.textsOr "columns" d.columns
    <*> f.optional "rows" (Read.listOf (Read.listOf Read.texts)) d.rows

/-- Reads the wording of sections on reasonable adjustment. -/
def AdjustmentProfile.read (f : Fields) : Check AdjustmentProfile :=
  let d : AdjustmentProfile := {}
  AdjustmentProfile.mk <$> f.textOr "heading" d.heading
    <*> f.textOr "split_marker" d.splitMarker
    <*> f.textOr "applied_label" d.appliedLabel
    <*> f.textOr "task_label" d.taskLabel
    <*> f.textOr "description_label" d.descriptionLabel
    <*> f.textOr "signature_label" d.signatureLabel
    <*> f.textOr "date_label" d.dateLabel
    <*> f.textOr "appendix_title" d.appendixTitle
    <*> f.textOr "appendix_task_bar" d.appendixTaskBar
    <*> f.textOr "appendix_guidance_bar" d.appendixGuidanceBar
    <*> f.textsOr "appendix_guidance" d.appendixGuidance
    <*> f.optional "appendix_matrices" (Read.listOf (Read.record AppendixMatrix.read))
      d.appendixMatrices
    <*> f.textOr "appendix_strategies_bar" d.appendixStrategiesBar
    <*> f.textOr "appendix_explanation_bar" d.appendixExplanationBar
    <*> f.textOr "appendix_declaration" d.appendixDeclaration

/-- Reads the wording of the learner evaluation. -/
def EvaluationProfile.read (f : Fields) : Check EvaluationProfile :=
  let d : EvaluationProfile := {}
  EvaluationProfile.mk <$> f.textOr "step_title" d.stepTitle
    <*> f.textOr "participant_section_title" d.participantSectionTitle
    <*> f.textOr "title" d.title
    <*> f.textOr "intro" d.intro
    <*> f.textsOr "bullets" d.bullets
    <*> f.textOr "closing" d.closing

/-- Reads the wording of declarations. -/
def DeclarationProfile.read (f : Fields) : Check DeclarationProfile :=
  let d : DeclarationProfile := {}
  DeclarationProfile.mk <$> f.textOr "office_spanner" d.officeSpanner
    <*> f.textOr "student_name_label" d.studentNameLabel
    <*> f.textOr "trainer_name_label" d.trainerNameLabel
    <*> f.textOr "date_label" d.dateLabel

/-- Reads the wording of assessment sections. -/
def AssessmentProfile.read (f : Fields) : Check AssessmentProfile :=
  let d : AssessmentProfile := {}
  AssessmentProfile.mk <$> f.textOr "evidence_header" d.evidenceHeader
    <*> f.textOr "method_header" d.methodHeader
    <*> f.textOr "describe_hint" d.describeHint

/-- Reads a profile. Fields that a profile does not have are passed over. -/
def Profile.read (f : Fields) : Check Profile :=
  let d : Profile := {}
  Profile.mk <$> f.textOr "schema_version" d.schemaVersion
    <*> f.partOr "organisation" OrganisationProfile.read d.organisation
    <*> f.partOr "cover" CoverProfile.read d.cover
    <*> f.partOr "intro" IntroProfile.read d.intro
    <*> f.optional "group_titles" (Read.entriesOf Read.text) d.groupTitles
    <*> f.textOr "fallback_group_title" d.fallbackGroupTitle
    <*> f.partOr "likert" LikertProfile.read d.likert
    <*> f.partOr "assessment" AssessmentProfile.read d.assessment
    <*> f.partOr "reasonable_adjustment" AdjustmentProfile.read d.adjustment
    <*> f.partOr "learner_evaluation" EvaluationProfile.read d.evaluation
    <*> f.partOr "declarations" DeclarationProfile.read d.declarations

end FormPress
