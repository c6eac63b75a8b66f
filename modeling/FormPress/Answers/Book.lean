/-
  FormPress.Answers.Book

  The answers of a snapshot, looked up by question and row or by the code of
  the question. Of several answers with one key the last one that is not empty
  counts; of several answered questions with one code the last one counts; the
  form itself stands in for four codes. A look-up that finds nothing is empty.
-/
import FormPress.Data.Table
import FormPress.Form.Schema

namespace FormPress

/-- The answers by key and by code. -/
structure AnswerBook where
  byKey : Table AnswerKey AnswerValue
  byCode : Table String AnswerValue
  deriving Inhabited

/-- The codes for which a form can stand in, with its fields. -/
def Form.standIns (f : Form) : List (String × Option String) :=
  [("qualification.code", f.qualificationCode), ("qualification.name", f.qualificationName),
    ("unit.code", f.unitCode), ("unit.name", f.unitName)]

namespace AnswerBook

/-! ## Building -/

/-- Enters an answer that is not empty. -/
def enter (t : Table AnswerKey AnswerValue) (a : Answer) : Table AnswerKey AnswerValue :=
  if a.value.isEmpty then t else t.put a.key a.value

/-- The answer of a question, or of one of its rows. -/
def lookUp (t : Table AnswerKey AnswerValue) (question : Int) (row : Option Int) : AnswerValue :=
  (t.get? ⟨question, row⟩).getD .empty

/-- Enters the answer of a question as a whole under its code, if it has a code and an answer. -/
def enterCode (answers : Table AnswerKey AnswerValue) (t : Table String AnswerValue)
    (q : QuestionNode) : Table String AnswerValue :=
  match q.question.code with
  | some code =>
    let v := lookUp answers q.question.id none
    if code == "" || v.isEmpty then t else t.put code v
  | none => t

/-- Enters what a form has to say for a code that no question answers. -/
def enterStandIn (t : Table String AnswerValue) (standIn : String × Option String) :
    Table String AnswerValue :=
  match standIn.2 with
  | some s => if s == "" || (t.get? standIn.1).isSome then t else t.put standIn.1 (.text s)
  | none => t

/-- The book of the given answers, questions and form. -/
def build (answers : List Answer) (questions : List QuestionNode) (form : Option Form) :
    AnswerBook :=
  let byKey := answers.foldl enter []
  let byCode := questions.foldl (enterCode byKey) []
  let standIns := (form.map Form.standIns).getD []
  ⟨byKey, standIns.foldl enterStandIn byCode⟩

/-- The book of a snapshot. -/
def ofSnapshot (s : Snapshot) : AnswerBook := build s.answers s.questions (some s.form)

/-! ## Looking up -/

variable (b : AnswerBook)

/-- The answer of a question, or of one of its rows. -/
def value (question : Int) (row : Option Int := none) : AnswerValue := lookUp b.byKey question row

/-- The text of the answer of a question, or of one of its rows. -/
def text (question : Int) (row : Option Int := none) : String := (b.value question row).shown

/-- The answer under a code. -/
def codeValue (code : String) : AnswerValue := (b.byCode.get? code).getD .empty

/-- The first text that is not blank among the answers under some codes. -/
def codeText : List String → String
  | [] => ""
  | code :: codes =>
    let s := (b.codeValue code).shown
    if s == "" then codeText codes else s

/-- The answer that a table shows for a question: that of its first row if it has rows. -/
def nodeValue (q : QuestionNode) : AnswerValue := b.value q.question.id (q.rows.head?.map (·.id))

end AnswerBook

end FormPress
