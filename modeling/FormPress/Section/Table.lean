/-
  FormPress.Section.Table

  Tables of answers: the plain table of a section, with its rows grouped by the
  prefix of the question's code, and the table of a participant's details.
-/
import FormPress.Section.Signature

namespace FormPress

/-! ## Shading -/

/-- The shading of a row. -/
inductive Shade where
  | plain
  | alternate
  deriving Repr, DecidableEq, Inhabited

/-- The class of a shading. -/
def Shade.word : Shade → String
  | .plain => "row-normal"
  | .alternate => "row-alt"

/-- Every second row is shaded, starting with the second one. -/
def Shade.ofIndex (i : Nat) : Shade := if i % 2 == 0 then .plain else .alternate

/-! ## Plain tables -/

/-- A question and its answer in a table. -/
structure DetailRow where
  label : String
  value : String
  shade : Shade
  deriving Repr, DecidableEq, Inhabited

/-- The rows under one title. -/
structure DetailGroup where
  title : String
  rows : List DetailRow
  deriving Repr, DecidableEq, Inhabited

/-- Instructions and a table of answers. -/
structure DetailView where
  instructions : List String
  groups : List DetailGroup
  deriving Repr, DecidableEq, Inhabited

namespace DetailView

/-- The texts of the instructions that have one. -/
def instructionTexts (questions : List QuestionNode) : List String :=
  questions.filterMap fun q =>
    if q.question.kind == .instructions then q.question.helpText.filter (· != "") else none

/-- The questions that have a place in the table. -/
def tabled (questions : List QuestionNode) : List QuestionNode :=
  questions.filter fun q => !q.question.kind.skippedInTables

/-- The rows from index `i` on, each with the title of its group. -/
def titledRows (answers : AnswerBook) (p : Profile) :
    Nat → List QuestionNode → List (String × DetailRow)
  | _, [] => []
  | i, q :: rest =>
    (p.groupTitle (codePrefix q.question.code),
      ⟨q.question.label, (answers.nodeValue q).shown, .ofIndex i⟩) ::
    titledRows answers p (i + 1) rest

/-- Rows collected under their titles, the titles in order of first appearance. -/
def collect (rows : List (String × DetailRow)) : List DetailGroup :=
  let groups : Table String (List DetailRow) :=
    rows.foldl (fun t r => Table.update r.1 [] (· ++ [r.2]) t) []
  groups.map fun g => ⟨g.1, g.2⟩

/-- The table of a section. -/
def ofSection (n : SectionNode) (answers : AnswerBook) (p : Profile) : DetailView :=
  ⟨instructionTexts n.questions, collect (titledRows answers p 0 (tabled n.questions))⟩

end DetailView

/-! ## Participants -/

/-- A label and a value next to each other. -/
structure ParticipantCell where
  label : String
  value : String
  deriving Repr, DecidableEq, Inhabited

/-- Three rows of two cells each. -/
structure ParticipantView where
  rows : List (List ParticipantCell)
  deriving Repr, DecidableEq, Inhabited

/-- The details of a participant: the first three short answers on the left, the next three on
    the right; missing ones leave blank cells. -/
def ParticipantView.ofSection (n : SectionNode) (answers : AnswerBook) : ParticipantView :=
  let short := n.questions.filter fun q => q.question.kind == .shortText
  let cellAt := fun (i : Nat) =>
    match short[i]? with
    | some q => (⟨q.question.label, answers.text q.question.id⟩ : ParticipantCell)
    | none => ⟨"", ""⟩
  ⟨[0, 1, 2].map fun i => [cellAt i, cellAt (i + 3)]⟩

/-! ## Markup -/

namespace Html

/-- A label and a value in one row. -/
def labelAndValue (depth : Nat) (label value : String) : List Html :=
  cell depth "label-cell" label ++ cell depth "value-cell" value

/-- A group of rows under its title. -/
def detailGroup (g : DetailGroup) : List Html :=
  block 2 "tr" []
    (leaf 3 "td" [attr "colspan" "2", attr "class" "sub-section-header"] g.title) ++
    g.rows.flatMap fun r =>
      block 2 "tr" [attrOf "class" r.shade.word] (labelAndValue 3 r.label r.value)

/-- The plain table of a section. -/
def detailBody (v : DetailView) : List Html :=
  (v.instructions.flatMap fun s => line 0 [element "div" (cls "instruction-block") [rich s]]) ++
    given (!v.groups.isEmpty)
      (block 0 "table" (cls "section-table") (block 1 "tbody" [] (v.groups.flatMap detailGroup)))

/-- The table of a participant's details. -/
def participantBody (v : ParticipantView) : List Html :=
  block 0 "table" (cls "section-table participant-table")
    (block 1 "tbody" []
      (v.rows.flatMap fun pair =>
        block 2 "tr" [] (pair.flatMap fun c => labelAndValue 3 c.label c.value)))

end Html

end FormPress
