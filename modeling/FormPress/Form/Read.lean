/-
  FormPress.Form.Read

  Reading the records of a form, its tree and its snapshots out of data values.
-/
import FormPress.Form.Schema
import FormPress.Record.Field

namespace FormPress

/-! ## Records -/

/-- The text of a version: any value but null in its display form. -/
def versionText : Value → Check (Option String) := Read.nullable Read.display

/-- The settings of a question: an object, or nothing. -/
def settingsOrNone : Value → Check Fields
  | .object fields => Read.fieldsOf (.object fields)
  | _ => .fits []

/-- An order that is zero where it is absent. -/
def Fields.sortOrder (fields : Fields) : Check Int := fields.optional "sort_order" Read.whole 0

/-- A text that may be null or absent. -/
def Fields.maybeText (fields : Fields) (name : String) : Check (Option String) :=
  fields.optional name (Read.nullable Read.text) none

/-- A whole number that may be null or absent. -/
def Fields.maybeWhole (fields : Fields) (name : String) : Check (Option Int) :=
  fields.optional name (Read.nullable Read.whole) none

/-- Reads a form. -/
def Form.read (fields : Fields) : Check Form :=
  Form.mk <$> fields.required "id" Read.whole
    <*> fields.optional "name" Read.text ""
    <*> fields.optional "version" versionText none
    <*> fields.maybeText "unit_code"
    <*> fields.maybeText "header_asset_url"
    <*> fields.maybeText "cover_asset_url"
    <*> fields.maybeText "qualification_code"
    <*> fields.maybeText "qualification_name"
    <*> fields.maybeText "unit_name"

/-- Reads a step. -/
def Step.read (fields : Fields) : Check Step :=
  Step.mk <$> fields.required "id" Read.whole
    <*> fields.optional "title" Read.text ""
    <*> fields.maybeText "subtitle"
    <*> fields.sortOrder

/-- Reads a section. A null mode is kept apart from an absent one. -/
def Section.read (fields : Fields) : Check Section :=
  Section.mk <$> fields.required "id" Read.whole
    <*> fields.maybeWhole "step_id"
    <*> fields.optional "title" Read.text ""
    <*> fields.maybeText "description"
    <*> fields.optional "pdf_render_mode" (Read.nullable Read.text) (some SectionMode.normal.word)
    <*> fields.optional "declarations_variant"
      (Read.nullable (Read.choice DeclarationKind.ofWord?)) none
    <*> fields.sortOrder

/-- Reads a question. -/
def Question.read (fields : Fields) : Check Question :=
  Question.mk <$> fields.required "id" Read.whole
    <*> fields.maybeWhole "section_id"
    <*> fields.optional "type" (fun v => (Read.text v).map QuestionKind.ofWord) .shortText
    <*> fields.maybeText "code"
    <*> fields.optional "label" Read.text ""
    <*> fields.maybeText "help_text"
    <*> fields.optional "required" Read.truth false
    <*> fields.sortOrder
    <*> fields.optional "role_visibility" Read.any .null
    <*> fields.optional "role_editability" Read.any .null
    <*> fields.optional "pdf_meta" settingsOrNone []

/-- Reads an option. -/
def QuestionOption.read (fields : Fields) : Check QuestionOption :=
  QuestionOption.mk <$> fields.required "id" Read.whole
    <*> fields.maybeWhole "question_id"
    <*> fields.optional "value" Read.text ""
    <*> fields.optional "label" Read.text ""
    <*> fields.sortOrder

/-- Reads a row. -/
def QuestionRow.read (fields : Fields) : Check QuestionRow :=
  QuestionRow.mk <$> fields.required "id" Read.whole
    <*> fields.maybeWhole "question_id"
    <*> fields.optional "row_label" Read.text ""
    <*> fields.maybeText "row_help"
    <*> fields.maybeText "row_image_url"
    <*> fields.optional "row_meta" (Read.nullable Read.fieldsOf) none
    <*> fields.sortOrder

/-- Reads an answer. -/
def Answer.read (fields : Fields) : Check Answer :=
  Answer.mk <$> fields.required "question_id" Read.whole
    <*> fields.maybeWhole "row_id"
    <*> fields.maybeText "value_text"
    <*> fields.optional "value_number" (Read.nullable Read.number) none
    <*> fields.optional "value_json" Read.any .null

/-! ## The tree -/

/-- Reads a question with its options and rows. -/
def QuestionNode.read (fields : Fields) : Check QuestionNode :=
  QuestionNode.mk <$> fields.required "question" (Read.record Question.read)
    <*> fields.optional "options" (Read.listOf (Read.record QuestionOption.read)) []
    <*> fields.optional "rows" (Read.listOf (Read.record QuestionRow.read)) []

/-- Reads a section with its questions. -/
def SectionNode.read (fields : Fields) : Check SectionNode :=
  SectionNode.mk <$> fields.required "section" (Read.record Section.read)
    <*> fields.optional "questions" (Read.listOf (Read.record QuestionNode.read)) []

/-- Reads a step with its sections. -/
def StepNode.read (fields : Fields) : Check StepNode :=
  StepNode.mk <$> fields.required "step" (Read.record Step.read)
    <*> fields.optional "sections" (Read.listOf (Read.record SectionNode.read)) []

/-- Reads a snapshot. -/
def Snapshot.read (fields : Fields) : Check Snapshot :=
  Snapshot.mk <$> fields.required "instance_id" Read.whole
    <*> fields.required "form" (Read.record Form.read)
    <*> fields.optional "steps" (Read.listOf (Read.record StepNode.read)) []
    <*> fields.optional "answers" (Read.listOf (Read.record Answer.read)) []

end FormPress
