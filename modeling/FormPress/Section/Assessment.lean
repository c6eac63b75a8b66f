/-
  FormPress.Section.Assessment

  Assessment sections: the table of tasks, which shows no answers, and the ways
  of submission with a box to tick for each.
-/
import FormPress.Section.Table

namespace FormPress

/-! ## Affirmation -/

/-- Whether an answer says yes, spaces around it and case apart. -/
def isAffirmative (s : String) : Bool :=
  let word := Text.lower (Text.trim s)
  word == "yes" || word == "true"

/-! ## Tasks -/

/-- A task. -/
structure TaskRow where
  evidence : String
  method : String
  shade : Shade
  deriving Repr, DecidableEq, Inhabited

/-- The table of tasks, present where a question with rows gives it. -/
structure TasksView where
  evidenceHeader : String
  methodHeader : String
  rows : List TaskRow
  present : Bool
  deriving Repr, DecidableEq, Inhabited

/-- The tasks from index `i` on. -/
def taskRowsFrom : Nat → List QuestionRow → List TaskRow
  | _, [] => []
  | i, r :: rest => ⟨r.label, r.help.getD "", .ofIndex i⟩ :: taskRowsFrom (i + 1) rest

/-- The tasks of a section: the rows of its first grid question that has rows. -/
def TasksView.ofSection (n : SectionNode) (p : Profile) : TasksView :=
  let given := n.questions.find? fun q => q.question.kind == .gridTable && !q.rows.isEmpty
  { evidenceHeader := p.assessment.evidenceHeader
    methodHeader := p.assessment.methodHeader
    rows := (given.map fun q => taskRowsFrom 0 q.rows).getD []
    present := given.isSome }

/-! ## Submission -/

/-- A way of submission. -/
structure SubmissionItem where
  label : String
  checked : Bool
  isOther : Bool
  spanFull : Bool
  otherText : String
  deriving Repr, DecidableEq, Inhabited

/-- The ways of submission. -/
structure SubmissionView where
  items : List SubmissionItem
  hint : String
  deriving Repr, DecidableEq, Inhabited

namespace SubmissionView

/-- Whether a label speaks of a learning management system. -/
def isLmsLabel (label : String) : Bool :=
  Text.containsIgnoringCase "lms".toList label.toList ||
    Text.containsIgnoringCase "learning management".toList label.toList

/-- The question right after the first one with several options. -/
def afterChoice : List QuestionNode → Option QuestionNode
  | [] => none
  | q :: rest => if q.question.kind == .multiChoice then rest.head? else afterChoice rest

/-- The question that describes the other way: the short answer right after the choice, else the
    first short answer of the section. -/
def otherQuestion (n : SectionNode) : Option QuestionNode :=
  match afterChoice n.questions with
  | some q => if q.question.kind == .shortText then some q else n.firstOfKind .shortText
  | none => n.firstOfKind .shortText

/-- The ways of submission of a section. -/
def ofSection (n : SectionNode) (answers : AnswerBook) (p : Profile) : SubmissionView :=
  let choice := n.firstOfKind .multiChoice
  let otherText := ((otherQuestion n).map fun q => answers.text q.question.id).getD ""
  let selected := (choice.map fun q => (answers.value q.question.id).items).getD []
  let items := ((choice.map (·.options)).getD []).map fun o =>
    let isOther := o.value == "other"
    { label := o.label
      checked := selected.contains o.value
      isOther := isOther
      spanFull := isOther || isLmsLabel o.label
      otherText := if isOther then otherText else "" : SubmissionItem }
  ⟨items, p.assessment.describeHint⟩

end SubmissionView

/-! ## Markup -/

namespace Html

/-- A box, ticked or not. -/
def checkbox (checked : Bool) : Html :=
  if checked then element "span" (cls "cb checked") [charRef 10003]
  else element "span" (cls "cb") []

/-- The label of a question on a line. -/
def questionLabel (depth : Nat) (label : String) : List Html :=
  leaf depth "span" (cls "question-label") label

/-- The table of tasks. -/
def tasksBody (v : TasksView) : List Html :=
  given v.present
    (block 0 "table" (cls "section-table assessment-tasks-table")
      (block 1 "thead" []
        (block 2 "tr" []
          (leaf 3 "th" (cls "sub-section-header") v.evidenceHeader ++
            leaf 3 "th" (cls "sub-section-header") v.methodHeader)) ++
        block 1 "tbody" []
          (v.rows.flatMap fun r =>
            block 2 "tr" [attrOf "class" r.shade.word]
              (cell 3 "label-cell" r.evidence ++
                line 3 [element "td" (cls "value-cell") [rich r.method]]))))

/-- A way of submission. -/
def submissionItem (i : SubmissionItem) : List Html :=
  block 2 "div"
    (cls (if i.spanFull then "assessment-submission-item span-full"
      else "assessment-submission-item"))
    (line 3 [checkbox i.checked] ++ questionLabel 3 i.label ++
      given i.isOther (leaf 3 "span" (cls "cb-inline-input") i.otherText))

/-- The ways of submission. -/
def submissionBody (v : SubmissionView) : List Html :=
  block 0 "div" (cls "assessment-submission-section")
    (block 1 "div" (cls "assessment-submission-grid") (v.items.flatMap submissionItem) ++
      block 1 "div" (cls "assessment-submission-other-block")
        (line 2 [element "div" (cls "other-underline") []] ++
          leaf 2 "div" (cls "assessment-submission-hint") v.hint))

end Html

end FormPress
