/-
  FormPress.Tables.Load

  Loading one form instance out of tables: its form, the tree of the form's
  parts in order, and its answers. Keys are equal when their values are.
-/
import FormPress.Form.Read
import FormPress.Tables.Basic

namespace FormPress

namespace FormTables

/-! ## Records -/

/-- The value as a record. -/
def recordOf (v : Value) : Except Failure Record := v.partsFor "get"

/-- The first record with an id; there is none without an id. -/
def findRecord (id : Value) : List Value → Except Failure (Option Record)
  | [] => .ok none
  | v :: rest =>
    if id.isNull then .ok none
    else do
      let r ← recordOf v
      if (Fields.get r "id").same id then return some r else findRecord id rest

/-- A record read as what it is, once all its keys are names. -/
def readRecord {α : Type} (kind : RecordKind) (read : Fields → Check α) (r : Record) :
    Except Failure α := do
  let named ← Fields.named r
  (read named).orFail kind

/-! ## Records below others -/

/-- The records of a table, each with the key of the record above it. -/
abbrev Keyed := List (Scalar × Record)

/-- Keys the records of a table by a field, which must hold something that can be a key. -/
def keyed (field : String) : List Value → Except Failure Keyed
  | [] => .ok []
  | v :: rest => do
    let r ← recordOf v
    let above := Fields.get r field
    match above.key? with
    | none => .error (.misuse (.asKey above.kindName))
    | some key =>
      let others ← keyed field rest
      return (key, r) :: others

/-- The records below a key, in order. -/
def below (table : Keyed) (key : Value) : Except Failure (List Record) :=
  Record.sorted ((table.filter fun p => (Value.scalar p.1).same key).map (·.2))

/-- The keyed tables of the parts of forms. -/
structure Parts where
  sections : Keyed
  questions : Keyed
  options : Keyed
  rows : Keyed

/-- Keys the tables of parts. -/
def parts (t : FormTables) : Except Failure Parts := do
  return {
    sections := ← keyed "step_id" t.sections
    questions := ← keyed "section_id" t.questions
    options := ← keyed "question_id" t.options
    rows := ← keyed "question_id" t.rows }

/-! ## The tree -/

/-- A question with its options and rows. -/
def questionNode (p : Parts) (r : Record) : Except Failure QuestionNode := do
  let question ← readRecord .question Question.read r
  let options ← below p.options (Fields.get r "id")
  let options ← options.mapM (readRecord .option QuestionOption.read)
  let rows ← below p.rows (Fields.get r "id")
  let rows ← rows.mapM (readRecord .row QuestionRow.read)
  return ⟨question, options, rows⟩

/-- A section with its questions. -/
def sectionNode (p : Parts) (r : Record) : Except Failure SectionNode := do
  let header ← readRecord .section Section.read r
  let questions ← below p.questions (.int header.id)
  let questions ← questions.mapM (questionNode p)
  return ⟨header, questions⟩

/-- A step with its sections. -/
def stepNode (p : Parts) (r : Record) : Except Failure StepNode := do
  let step ← readRecord .step Step.read r
  let sections ← below p.sections (.int step.id)
  let sections ← sections.mapM (sectionNode p)
  return ⟨step, sections⟩

/-- The records of a form's steps. -/
def stepsOf (formId : Int) : List Value → Except Failure (List Record)
  | [] => .ok []
  | v :: rest => do
    let r ← recordOf v
    let others ← stepsOf formId rest
    return if (Fields.get r "form_id").same (.int formId) then r :: others else others

/-- The tree of a form. -/
def tree (t : FormTables) (formId : Int) : Except Failure (List StepNode) := do
  let p ← t.parts
  let steps ← stepsOf formId t.steps
  let steps ← Record.sorted steps
  steps.mapM (stepNode p)

/-! ## Answers -/

/-- Whether an answer belongs to an instance; one without an instance does if there is only one. -/
def belongs (t : FormTables) (id : Value) (r : Record) : Bool :=
  let owner := Fields.get r "instance_id"
  owner.same id || (t.instances.length == 1 && owner.isNull)

/-- The answers of an instance. -/
def answersOf (t : FormTables) (id : Value) : List Value → Except Failure (List Answer)
  | [] => .ok []
  | v :: rest => do
    let r ← recordOf v
    if t.belongs id r then
      let answer ← readRecord .answer Answer.read r
      let others ← answersOf t id rest
      return answer :: others
    else answersOf t id rest

/-! ## Instances -/

/-- The record of the form of an instance. -/
def formRecord (t : FormTables) (id : Value) : Except Failure Record := do
  match ← findRecord id t.instances with
  | none => .error (.engine (.missing (.instanceOf id)))
  | some r =>
    let formId := Fields.get r "form_id"
    match ← findRecord formId t.forms with
    | none => .error (.engine (.missing (.form id formId)))
    | some form => .ok form

/-- The number of an instance. -/
def instanceNumber (id : Value) : Except Failure Int :=
  ((Read.whole id).inside (.field "instance_id")).orFail .snapshot

/-- Loads an instance. -/
def load (t : FormTables) (id : Value) : Except Failure Snapshot := do
  let record ← t.formRecord id
  let form ← readRecord .form Form.read record
  let steps ← t.tree form.id
  let answers ← t.answersOf id t.answers
  let number ← instanceNumber id
  return ⟨number, form, steps, answers⟩

end FormTables

end FormPress
