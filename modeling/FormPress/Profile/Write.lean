/-
  FormPress.Profile.Write

  A profile as a data value, with all its fields.
-/
import FormPress.Data.Print
import FormPress.Profile.Basic

namespace FormPress

open Value (record texts)

/-- The organisation as a value. -/
def OrganisationProfile.toValue (o : OrganisationProfile) : Value := record [
  ("name", .text o.name), ("brand_title", .text o.brandTitle),
  ("brand_subtitle", .text o.brandSubtitle), ("address_lines", texts o.addressLines),
  ("email", .text o.email), ("phone", .text o.phone)]

/-- The wording of the cover as a value. -/
def CoverProfile.toValue (c : CoverProfile) : Value := record [
  ("band_title", .text c.bandTitle), ("unit_code_placeholder", .text c.unitCodePlaceholder),
  ("unit_title_placeholder", .text c.unitTitlePlaceholder)]

/-- A block of the introduction as a value. -/
def IntroBlock.toValue (b : IntroBlock) : Value := record [
  ("heading", .text b.heading), ("level", .int b.level), ("paragraphs", texts b.paragraphs),
  ("bullets", texts b.bullets)]

/-- The introduction as a value. -/
def IntroProfile.toValue (i : IntroProfile) : Value := record [
  ("title", .text i.title), ("blocks", .list (i.blocks.map IntroBlock.toValue))]

/-- The wording of rating tables as a value. -/
def LikertProfile.toValue (l : LikertProfile) : Value := record [
  ("scale_labels", texts l.scaleLabels), ("number_header", .text l.numberHeader),
  ("criteria_header", .text l.criteriaHeader)]

/-- A matrix of the appendix as a value. -/
def AppendixMatrix.toValue (m : AppendixMatrix) : Value := record [
  ("columns", texts m.columns), ("rows", .list (m.rows.map fun r => .list (r.map texts)))]

/-- The wording of sections on reasonable adjustment as a value. -/
def AdjustmentProfile.toValue (a : AdjustmentProfile) : Value := record [
  ("heading", .text a.heading), ("split_marker", .text a.splitMarker),
  ("applied_label", .text a.appliedLabel), ("task_label", .text a.taskLabel),
  ("description_label", .text a.descriptionLabel), ("signature_label", .text a.signatureLabel),
  ("date_label", .text a.dateLabel), ("appendix_title", .text a.appendixTitle),
  ("appendix_task_bar", .text a.appendixTaskBar),
  ("appendix_guidance_bar", .text a.appendixGuidanceBar),
  ("appendix_guidance", texts a.appendixGuidance),
  ("appendix_matrices", .list (a.appendixMatrices.map AppendixMatrix.toValue)),
  ("appendix_strategies_bar", .text a.appendixStrategiesBar),
  ("appendix_explanation_bar", .text a.appendixExplanationBar),
  ("appendix_declaration", .text a.appendixDeclaration)]

/-- The wording of the learner evaluation as a value. -/
def EvaluationProfile.toValue (e : EvaluationProfile) : Value := record [
  ("step_title", .text e.stepTitle),
  ("participant_section_title", .text e.participantSectionTitle), ("title", .text e.title),
  ("intro", .text e.intro), ("bullets", texts e.bullets), ("closing", .text e.closing)]

/-- The wording of declarations as a value. -/
def DeclarationProfile.toValue (d : DeclarationProfile) : Value := record [
  ("office_spanner", .text d.officeSpanner), ("student_name_label", .text d.studentNameLabel),
  ("trainer_name_label", .text d.trainerNameLabel), ("date_label", .text d.dateLabel)]

/-- The wording of assessment sections as a value. -/
def AssessmentProfile.toValue (a : AssessmentProfile) : Value := record [
  ("evidence_header", .text a.evidenceHeader), ("method_header", .text a.methodHeader),
  ("describe_hint", .text a.describeHint)]

/-- A profile as a value. -/
def Profile.toValue (p : Profile) : Value := record [
  ("schema_version", .text p.schemaVersion), ("organisation", p.organisation.toValue),
  ("cover", p.cover.toValue), ("intro", p.intro.toValue),
  ("group_titles", record (p.groupTitles.map fun g => (g.1, .text g.2))),
  ("fallback_group_title", .text p.fallbackGroupTitle), ("likert", p.likert.toValue),
  ("assessment", p.assessment.toValue), ("reasonable_adjustment", p.adjustment.toValue),
  ("learner_evaluation", p.evaluation.toValue), ("declarations", p.declarations.toValue)]

end FormPress
