/-
  FormPress.Section.Likert

  Rating tables: a row for each row of the rating questions, with one circle for
  each label of the scale, and a box for comments.
-/
import FormPress.Section.Table
import FormPress.Section.Context

namespace FormPress

/-- A row of a rating table. -/
structure LikertRow where
  number : Nat
  label : String
  help : Option String
  selected : Option Nat
  cells : List Bool
  shade : Shade
  deriving Repr, DecidableEq, Inhabited

/-- A box with a label. -/
structure CommentsBox where
  label : String
  value : String
  deriving Repr, DecidableEq, Inhabited

/-- A rating table. -/
structure LikertView where
  letter : String
  title : String
  numberHeader : String
  criteriaHeader : String
  scaleLabels : List String
  rows : List LikertRow
  comments : Option CommentsBox
  pageBreakBefore : Bool
  closingBar : Bool
  deriving Repr, DecidableEq, Inhabited

namespace LikertView

/-- The letter of a section: the first to the twenty-sixth have one. -/
def letterOf (sortOrder : Int) : String :=
  if 1 ≤ sortOrder ∧ sortOrder ≤ 26 then String.singleton (Char.ofNat (64 + sortOrder.toNat))
  else ""

/-- Which of the labels 1 to `k` of the scale is the answer. -/
def cellsOf (k : Nat) (answer : String) : List Bool :=
  (List.range k).map fun i => answer == toString (i + 1)

/-- The rows of the rating questions in document order. -/
def ratedRows (questions : List QuestionNode) : List (QuestionNode × QuestionRow) :=
  (questions.filter fun q => q.question.kind == .likert).flatMap fun q => q.rows.map fun r => (q, r)

/-- The row with number `number`. -/
def rowOf (answers : AnswerBook) (k number : Nat) (q : QuestionNode) (r : QuestionRow) :
    LikertRow :=
  let cells := cellsOf k (answers.text q.question.id (some r.id))
  { number := number
    label := r.label
    help := r.help
    selected := (cells.findIdx? id).map (· + 1)
    cells := cells
    shade := if number % 2 == 0 then .alternate else .plain }

/-- The rows from number `number` on. -/
def rowsFrom (answers : AnswerBook) (k : Nat) :
    Nat → List (QuestionNode × QuestionRow) → List LikertRow
  | _, [] => []
  | number, (q, r) :: rest => rowOf answers k number q r :: rowsFrom answers k (number + 1) rest

/-- The first long answer whose code speaks of comments. -/
def commentsOf (questions : List QuestionNode) (answers : AnswerBook) : Option CommentsBox :=
  (questions.find? fun q =>
    q.question.kind == .longText && Text.contains (q.question.code.getD "") "Comments").map
      fun q => ⟨q.question.label, answers.text q.question.id⟩

/-- The rating table of a section. In the learner evaluation each table but the first starts a
    page, and the last one ends with a bar. -/
def ofSection (n : SectionNode) (answers : AnswerBook) (p : Profile) (c : SectionContext) :
    LikertView :=
  { letter := letterOf n.header.sortOrder
    title := n.header.title
    numberHeader := p.likert.numberHeader
    criteriaHeader := p.likert.criteriaHeader
    scaleLabels := p.likert.scaleLabels
    rows := rowsFrom answers p.likert.scaleLabels.length 1 (ratedRows n.questions)
    comments := commentsOf n.questions answers
    pageBreakBefore := c.learnerEvaluation && decide (0 < c.likertIndex)
    closingBar := c.learnerEvaluation && c.lastLikert }

/-- The title behind the letter. -/
def spanner (v : LikertView) : String :=
  if v.letter == "" then v.title else v.letter ++ ". " ++ v.title

end LikertView

namespace Html

/-- A circle, filled or not. -/
def radio (filled : Bool) : Html :=
  element "span" (cls (if filled then "radio-circle filled" else "radio-circle")) []

/-- A row of a rating table. -/
def likertRow (r : LikertRow) : List Html :=
  let help :=
    match r.help with
    | some s => given (s != "") [element "div" (cls "likert-help") [rich s]]
    | none => []
  block 3 "tr" [attrOf "class" r.shade.word]
    (cell 4 "likert-no" (toString r.number) ++
      line 4 [element "td" (cls "likert-criteria")
        (eol :: line 5 [text r.label] ++ help ++ [pad 4])] ++
      r.cells.flatMap fun filled => line 4 [element "td" (cls "likert-radio") [radio filled]])

/-- A rating table. -/
def likertBody (v : LikertView) : List Html :=
  let head :=
    block 3 "tr" []
      (leaf 4 "th" (cls "likert-header likert-no") v.numberHeader ++
        leaf 4 "th" (cls "likert-header likert-criteria") v.criteriaHeader ++
        v.scaleLabels.flatMap fun label =>
          line 4 [element "th" (cls "likert-header likert-scale")
            [element "div" (cls "likert-scale-inner") [element "span" [] [text label]]]]) ++
      block 3 "tr" (cls "likert-section-row")
        (cell 4 "likert-no" v.letter ++
          leaf 4 "td" [attrOf "colspan" (toString (v.scaleLabels.length + 1)),
            attr "class" "likert-section-title"] v.spanner)
  let comments :=
    match v.comments with
    | some box =>
      block 1 "div" (cls "likert-comments")
        (leaf 2 "div" (cls "likert-comments-label") box.label ++
          leaf 2 "div" (cls "answer-box answer-box-large") box.value)
    | none => []
  block 0 "div"
    (cls (if v.pageBreakBefore then "likert-table-with-comments likert-page-break"
      else "likert-table-with-comments"))
    (block 1 "table" (cls "likert-table")
      (block 2 "thead" [] head ++ block 2 "tbody" [] (v.rows.flatMap likertRow)) ++
      comments) ++
    given v.closingBar (line 0 [element "div" (cls "learner-eval-grey-bar") []])

end Html

end FormPress
