/-
  FormPress.Form.Mode

  The words by which a form says how its parts are laid out: the mode of a
  section, the kind of a declarations section, and the kind of a question.
-/
import FormPress.Text.Search

namespace FormPress

/-! ## Section modes -/

/-- How a section is laid out. -/
inductive SectionMode where
  | normal
  | likertTable
  | gridTable
  | assessmentTasks
  | assessmentSubmission
  | reasonableAdjustment
  | declarations
  deriving DecidableEq, Repr, Inhabited

namespace SectionMode

/-- All modes. -/
def all : List SectionMode :=
  [normal, likertTable, gridTable, assessmentTasks, assessmentSubmission, reasonableAdjustment,
    declarations]

/-- The word for a mode. -/
def word : SectionMode → String
  | normal => "normal"
  | likertTable => "likert_table"
  | gridTable => "grid_table"
  | assessmentTasks => "assessment_tasks"
  | assessmentSubmission => "assessment_submission"
  | reasonableAdjustment => "reasonable_adjustment"
  | declarations => "declarations"

/-- The mode that a word stands for. -/
def ofWord? (s : String) : Option SectionMode := all.find? fun m => m.word == s

/-- The mode that a text names in any case and with spaces around it; any other text, and none,
    is `normal`. -/
def ofText (s : Option String) : SectionMode :=
  (ofWord? (Text.lower (Text.trim (s.getD "")))).getD normal

/-- Reading the word of a mode gives the mode. -/
theorem ofWord?_word (m : SectionMode) : ofWord? m.word = some m := by cases m <;> decide

end SectionMode

/-! ## Kinds of declarations -/

/-- How a declarations section is laid out. -/
inductive DeclarationKind where
  | finalDeclaration
  | signature
  | officeUse
  | generic
  deriving DecidableEq, Repr, Inhabited

namespace DeclarationKind

/-- All kinds. -/
def all : List DeclarationKind := [finalDeclaration, signature, officeUse, generic]

/-- The word for a kind. -/
def word : DeclarationKind → String
  | finalDeclaration => "final_declaration"
  | signature => "signature"
  | officeUse => "office_use"
  | generic => "generic"

/-- The kind that a word stands for. -/
def ofWord? (s : String) : Option DeclarationKind := all.find? fun k => k.word == s

/-- The kind that a title suggests; of several suggestions the first one in this order counts. -/
def ofTitle (title : Option String) : DeclarationKind :=
  let lowered := Text.lower (title.getD "")
  if Text.contains lowered "final declaration" then finalDeclaration
  else if Text.contains lowered "signature" then signature
  else if Text.contains lowered "office" then officeUse
  else generic

/-- Reading the word of a kind gives the kind. -/
theorem ofWord?_word (k : DeclarationKind) : ofWord? k.word = some k := by cases k <;> decide

end DeclarationKind

/-! ## Kinds of questions -/

/-- What a question asks for; forms may hold kinds that no layout knows. -/
inductive QuestionKind where
  | shortText
  | longText
  | date
  | yesNo
  | singleChoice
  | multiChoice
  | likert
  | gridTable
  | signature
  | instructions
  | pageBreak
  | other (word : String)
  deriving DecidableEq, Repr, Inhabited

namespace QuestionKind

/-- The kinds that layouts know. -/
def known : List QuestionKind :=
  [shortText, longText, date, yesNo, singleChoice, multiChoice, likert, gridTable, signature,
    instructions, pageBreak]

/-- The word for a kind. -/
def word : QuestionKind → String
  | shortText => "short_text"
  | longText => "long_text"
  | date => "date"
  | yesNo => "yes_no"
  | singleChoice => "single_choice"
  | multiChoice => "multi_choice"
  | likert => "likert_5"
  | gridTable => "grid_table"
  | signature => "signature"
  | instructions => "instruction_block"
  | pageBreak => "page_break"
  | other w => w

/-- The kind that a word stands for. -/
def ofWord (s : String) : QuestionKind := (known.find? fun k => k.word == s).getD (other s)

/-- Writing the kind of a word gives the word. -/
theorem word_ofWord (s : String) : (ofWord s).word = s := by
  unfold ofWord
  cases h : known.find? (fun k => k.word == s) with
  | none => rfl
  | some k => simpa using List.find?_some h

/-- Instructions and page breaks have no place in a table of answers. -/
def skippedInTables (k : QuestionKind) : Bool := k == instructions || k == pageBreak

/-- Questions that are answered by picking one option. -/
def isChoice (k : QuestionKind) : Bool := k == yesNo || k == singleChoice

end QuestionKind

end FormPress
