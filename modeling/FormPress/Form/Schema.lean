/-
  FormPress.Form.Schema

  A form and its parts: steps, sections, questions, and a question's options
  and rows; the tree they make; and a snapshot, which is a form with the
  answers of one instance.
-/
import FormPress.Form.Mode
import FormPress.Form.Answer

namespace FormPress

/-! ## Records -/

/-- A form. The last three fields stand in for answers that are not given. -/
structure Form where
  id : Int
  name : String
  version : Option String
  unitCode : Option String
  headerImage : Option String
  coverImage : Option String
  qualificationCode : Option String
  qualificationName : Option String
  unitName : Option String
  deriving Repr, Inhabited

/-- A step of a form, which starts a page. -/
structure Step where
  id : Int
  title : String
  subtitle : Option String
  sortOrder : Int
  deriving Repr, Inhabited

/-- A section of a step. -/
structure Section where
  id : Int
  stepId : Option Int
  title : String
  description : Option String
  modeText : Option String
  declarationKind : Option DeclarationKind
  sortOrder : Int
  deriving Repr, Inhabited

/-- A question. -/
structure Question where
  id : Int
  sectionId : Option Int
  kind : QuestionKind
  code : Option String
  label : String
  helpText : Option String
  required : Bool
  sortOrder : Int
  visibility : Value
  editability : Value
  settings : Fields
  deriving Repr, Inhabited

/-- An option of a question. -/
structure QuestionOption where
  id : Int
  questionId : Option Int
  value : String
  label : String
  sortOrder : Int
  deriving Repr, Inhabited

/-- A row of a matrix question. -/
structure QuestionRow where
  id : Int
  questionId : Option Int
  label : String
  help : Option String
  image : Option String
  settings : Option Fields
  sortOrder : Int
  deriving Repr, Inhabited

namespace Section

/-- The mode of the section. -/
def mode (s : Section) : SectionMode := .ofText s.modeText

/-- The kind of a declarations section: the given one, else what the title suggests. -/
def effectiveKind (s : Section) : DeclarationKind :=
  s.declarationKind.getD (.ofTitle (some s.title))

end Section

/-- A code up to its first point. -/
def codePrefix (code : Option String) : String :=
  String.ofList ((code.getD "").toList.takeWhile (· != '.'))

/-- Whether a code belongs to the student. -/
def isStudentCode (code : Option String) : Bool :=
  "student".toList.isPrefixOf (code.getD "").toList

/-- The code of the full name of the person who signs a question with this code. -/
def signerNameCode (code : Option String) : String :=
  if isStudentCode code then "student.fullName" else "trainer.fullName"

/-! ## The tree -/

/-- A question with its options and rows in order. -/
structure QuestionNode where
  question : Question
  options : List QuestionOption
  rows : List QuestionRow
  deriving Repr, Inhabited

/-- A section with its questions in order. -/
structure SectionNode where
  header : Section
  questions : List QuestionNode
  deriving Repr, Inhabited

/-- A step with its sections in order. -/
structure StepNode where
  step : Step
  sections : List SectionNode
  deriving Repr, Inhabited

namespace SectionNode

/-- The first question of a kind. -/
def firstOfKind (n : SectionNode) (kind : QuestionKind) : Option QuestionNode :=
  n.questions.find? fun q => q.question.kind == kind

/-- The first question with a code. -/
def findByCode (n : SectionNode) (code : String) : Option QuestionNode :=
  n.questions.find? fun q => q.question.code == some code

end SectionNode

/-! ## Snapshots -/

/-- A form with the answers of one of its instances. -/
structure Snapshot where
  instanceId : Int
  form : Form
  steps : List StepNode
  answers : List Answer
  deriving Repr, Inhabited

namespace Snapshot

/-- The sections in document order. -/
def sections (s : Snapshot) : List SectionNode := s.steps.flatMap (·.sections)

/-- The questions in document order. -/
def questions (s : Snapshot) : List QuestionNode := s.sections.flatMap (·.questions)

/-- The name of the document's file. -/
def fileName (s : Snapshot) : String := "form-" ++ toString s.instanceId ++ ".pdf"

end Snapshot

end FormPress
