/-
  FormPress.Form.Answer

  Answers as they are stored and as they are shown. A stored record may hold a
  text, a number and a data value; what it answers is the first of these that is
  there (`Answer.value`).
-/
import FormPress.Data.Written

namespace FormPress

/-! ## Answered values -/

/-- What a question was answered with. -/
inductive AnswerValue where
  | text (s : String)
  | number (n : Number)
  | structured (v : Value)
  | empty
  deriving Repr, Inhabited

namespace AnswerValue

/-- Whether nothing was answered. -/
def isEmpty : AnswerValue → Bool
  | empty => true
  | _ => false

/-- The texts of the items of a list that are not null. -/
def itemTexts (items : List Value) : List String :=
  (items.filter (!·.isNull)).map Value.shown

/-- The answer on one line: a list with commas between its items, an object blank. -/
def shown : AnswerValue → String
  | text s => s
  | number n => n.text
  | structured (.list items) => ", ".intercalate (itemTexts items)
  | structured v => v.shown
  | empty => ""

/-- The items of an answered list. -/
def items : AnswerValue → List String
  | structured (.list items) => itemTexts items
  | _ => []

/-- The fields of an answered object. -/
def fields : AnswerValue → Fields
  | structured (.object fields) => fields
  | _ => []

end AnswerValue

/-! ## Stored answers -/

/-- The question, and the row of a matrix question, that an answer belongs to. -/
structure AnswerKey where
  question : Int
  row : Option Int
  deriving DecidableEq, Repr, Inhabited

/-- The order of keys: by question, then the question as a whole before its rows. -/
def AnswerKey.atMost (a b : AnswerKey) : Bool :=
  a.question < b.question || (a.question == b.question &&
    match a.row, b.row with
    | none, _ => true
    | some _, none => false
    | some r, some s => r ≤ s)

/-- A stored answer. -/
structure Answer where
  questionId : Int
  rowId : Option Int
  valueText : Option String
  valueNumber : Option Number
  valueData : Value
  deriving Repr, Inhabited

namespace Answer

/-- What the answer belongs to. -/
def key (a : Answer) : AnswerKey := ⟨a.questionId, a.rowId⟩

/-- What was answered: the text, else the number, else the data value. -/
def value (a : Answer) : AnswerValue :=
  match a.valueText with
  | some s => .text s
  | none =>
    match a.valueNumber with
    | some n => .number n
    | none => if a.valueData.isNull then .empty else .structured a.valueData

end Answer

end FormPress
