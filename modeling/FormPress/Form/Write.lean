/-
  FormPress.Form.Write

  The records of a form, its tree and its snapshots as data values, with all
  their fields.
-/
import FormPress.Data.Print
import FormPress.Form.Schema

namespace FormPress

open Value (maybe record)

/-- A form as a value. -/
def Form.toValue (f : Form) : Value := record [
  ("id", .int f.id), ("name", .text f.name), ("version", maybe .text f.version),
  ("unit_code", maybe .text f.unitCode), ("header_asset_url", maybe .text f.headerImage),
  ("cover_asset_url", maybe .text f.coverImage),
  ("qualification_code", maybe .text f.qualificationCode),
  ("qualification_name", maybe .text f.qualificationName), ("unit_name", maybe .text f.unitName)]

/-- A step as a value. -/
def Step.toValue (s : Step) : Value := record [
  ("id", .int s.id), ("title", .text s.title), ("subtitle", maybe .text s.subtitle),
  ("sort_order", .int s.sortOrder)]

/-- A section as a value. -/
def Section.toValue (s : Section) : Value := record [
  ("id", .int s.id), ("step_id", maybe .int s.stepId), ("title", .text s.title),
  ("description", maybe .text s.description), ("pdf_render_mode", maybe .text s.modeText),
  ("declarations_variant", maybe (fun k => .text (DeclarationKind.word k)) s.declarationKind),
  ("sort_order", .int s.sortOrder)]

/-- A question as a value. -/
def Question.toValue (q : Question) : Value := record [
  ("id", .int q.id), ("section_id", maybe .int q.sectionId), ("type", .text q.kind.word),
  ("code", maybe .text q.code), ("label", .text q.label), ("help_text", maybe .text q.helpText),
  ("required", .bool q.required), ("sort_order", .int q.sortOrder),
  ("role_visibility", q.visibility), ("role_editability", q.editability),
  ("pdf_meta", .object q.settings)]

/-- An option as a value. -/
def QuestionOption.toValue (o : QuestionOption) : Value := record [
  ("id", .int o.id), ("question_id", maybe .int o.questionId), ("value", .text o.value),
  ("label", .text o.label), ("sort_order", .int o.sortOrder)]

/-- A row as a value. -/
def QuestionRow.toValue (r : QuestionRow) : Value := record [
  ("id", .int r.id), ("question_id", maybe .int r.questionId), ("row_label", .text r.label),
  ("row_help", maybe .text r.help), ("row_image_url", maybe .text r.image),
  ("row_meta", maybe .object r.settings), ("sort_order", .int r.sortOrder)]

/-- An answer as a value. -/
def Answer.toValue (a : Answer) : Value := record [
  ("question_id", .int a.questionId), ("row_id", maybe .int a.rowId),
  ("value_text", maybe .text a.valueText),
  ("value_number", maybe (fun n => .scalar (.number n)) a.valueNumber),
  ("value_json", a.valueData)]

/-- A question with its options and rows as a value. -/
def QuestionNode.toValue (q : QuestionNode) : Value := record [
  ("question", q.question.toValue), ("options", .list (q.options.map QuestionOption.toValue)),
  ("rows", .list (q.rows.map QuestionRow.toValue))]

/-- A section with its questions as a value. -/
def SectionNode.toValue (n : SectionNode) : Value := record [
  ("section", n.header.toValue), ("questions", .list (n.questions.map QuestionNode.toValue))]

/-- A step with its sections as a value. -/
def StepNode.toValue (n : StepNode) : Value := record [
  ("step", n.step.toValue), ("sections", .list (n.sections.map SectionNode.toValue))]

/-- A snapshot as a value. -/
def Snapshot.toValue (s : Snapshot) : Value := record [
  ("instance_id", .int s.instanceId), ("form", s.form.toValue),
  ("steps", .list (s.steps.map StepNode.toValue)),
  ("answers", .list (s.answers.map Answer.toValue))]

end FormPress
