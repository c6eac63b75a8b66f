/-
  FormPress.Section.Adjustment

  Sections on reasonable adjustment, as a block of questions or, in appendix A,
  as pages of guidance with matrices of strategies. The description of the
  section is cut in two where the profile's marker first occurs.
-/
import FormPress.Section.Assessment
import FormPress.Section.Likert

namespace FormPress

/-- A section on reasonable adjustment. -/
structure AdjustmentView where
  appendix : Bool
  wording : AdjustmentProfile
  descriptionIntro : String
  descriptionNote : String
  appliedLabel : String
  appliedYes : Bool
  appliedNo : Bool
  taskLabel : String
  taskText : String
  descriptionLabel : String
  descriptionText : String
  signatureImage : Option String
  signatureDate : String
  trainerName : String
  deriving Repr, Inhabited

/-- A description before and from the first occurrence of a marker in any case, without white
    space around the parts. -/
def splitDescription (description : Option String) (marker : String) : String × String :=
  match description with
  | none => ("", "")
  | some s =>
    match Text.splitIgnoringCase marker.toList s.toList with
    | some (before, rest) =>
      (String.ofList (Text.trimChars before), String.ofList (Text.trimChars rest))
    | none => (Text.trim s, "")

namespace AdjustmentView

/-- The label of a question, or what stands in its place. -/
def labelOr (q : Option QuestionNode) (default : String) : String :=
  orText ((q.map (·.question.label)).getD "") default

/-- The text of a question's answer, blank without a question. -/
def textOf (q : Option QuestionNode) (answers : AnswerBook) : String :=
  (q.map fun q => answers.text q.question.id).getD ""

/-- The signature of the trainer, whose name stands in where nothing is signed. -/
def trainerSignature (q : Option QuestionNode) (answers : AnswerBook) : Signature :=
  let trainer := answers.codeText ["trainer.fullName"]
  match q with
  | some q => (answers.value q.question.id).signature trainer
  | none => ⟨none, trainer, ""⟩

/-- The section on reasonable adjustment. -/
def ofSection (n : SectionNode) (answers : AnswerBook) (p : Profile) (c : SectionContext) :
    AdjustmentView :=
  let wording := p.adjustment
  let task := n.findByCode "reasonable_adjustment.task"
  let description := n.findByCode "reasonable_adjustment.description"
  let yesNo := n.firstOfKind .yesNo
  let applied := textOf yesNo answers
  let yes := isAffirmative applied
  let signature := trainerSignature (n.firstOfKind .signature) answers
  let (intro, note) := splitDescription n.header.description wording.splitMarker
  { appendix := c.appendixA
    wording := wording
    descriptionIntro := intro
    descriptionNote := note
    appliedLabel := labelOr yesNo wording.appliedLabel
    appliedYes := yes
    appliedNo := !yes && Text.trim applied != ""
    taskLabel := labelOr task wording.taskLabel
    taskText := textOf task answers
    descriptionLabel := labelOr description wording.descriptionLabel
    descriptionText := textOf description answers
    signatureImage := signature.image
    signatureDate := signature.date
    trainerName := signature.name }

end AdjustmentView

namespace Html

/-- A cell of a matrix: its lines as a list, a single one as plain text. -/
def matrixCell (lines : List String) : List Html :=
  if 1 < lines.length then
    block 3 "td" [] (block 4 "ul" [] (lines.flatMap (leaf 5 "li" [])))
  else line 3 [element "td" [] (eol :: lines.map text ++ [pad 3])]

/-- A matrix of strategies. -/
def matrix (m : AppendixMatrix) : List Html :=
  block 0 "table" (cls "appendix-table")
    (block 1 "thead" [] (block 2 "tr" [] (m.columns.flatMap (leaf 3 "th" []))) ++
      block 1 "tbody" [] (m.rows.flatMap fun row => block 2 "tr" [] (row.flatMap matrixCell)))

/-- A matrix indented by one step, with an empty line after it. -/
def indentedMatrix (m : AppendixMatrix) : List Html := line 1 (matrix m)

/-- The picture of a signature, if there is one. -/
def maybeSignature (address : Option String) : List Html :=
  match address with
  | some s => given (s != "") [signatureImage s]
  | none => []

/-- A question of the block: its label and a box with the answer. -/
def answerBox (label : String) (boxClass value : String) : List Html :=
  block 2 "div" (cls "question")
    (leaf 3 "div" (cls "question-label") label ++ leaf 3 "div" (cls boxClass) value)

/-- A circle with a word. -/
def radioWord (filled : Bool) (word : String) : List Html :=
  line 3 [element "span" (cls "reasonable-adjustment-radio") [radio filled, text (" " ++ word)]]

/-- The block of questions. -/
def adjustmentBlock (v : AdjustmentView) : List Html :=
  given (v.descriptionIntro != "")
    (line 0 [element "p" (cls "section-description") [rich v.descriptionIntro]]) ++
  given (v.descriptionNote != "")
    (line 0 [element "p" (cls "section-description reasonable-adjustment-note")
      [rich v.descriptionNote]]) ++
  block 0 "div" (cls "reasonable-adjustment-section")
    (line 1 [element "div" (cls "reasonable-adjustment-header")
      [charRef 9654, text " ", text v.wording.heading]] ++
    block 1 "div" (cls "reasonable-adjustment-body")
      (block 2 "div" (cls "question")
        (leaf 3 "div" (cls "question-label") v.appliedLabel ++
          radioWord v.appliedYes "Yes" ++ radioWord v.appliedNo "No") ++
      answerBox v.taskLabel "answer-box" v.taskText ++
      answerBox v.descriptionLabel "answer-box answer-box-large" v.descriptionText ++
      block 2 "div" (cls "reasonable-adjustment-sig-row")
        (leaf 3 "span" [] v.wording.signatureLabel ++
          line 3 [element "span" (cls "reasonable-adjustment-sig-line")
            (eol :: maybeSignature v.signatureImage ++ [pad 3])] ++
          leaf 3 "span" [] v.wording.dateLabel ++
          leaf 3 "span" (cls "reasonable-adjustment-date-line") v.signatureDate)))

/-- A bar with a title. -/
def appendixBar (s : String) : List Html := leaf 1 "div" (cls "appendix-section-bar") s

/-- The pages of appendix A: the first matrix follows the guidance, the others the strategies. -/
def adjustmentAppendix (v : AdjustmentView) : List Html :=
  let w := v.wording
  let strategies := w.appendixMatrices.drop 1
  let row := fun (label : String) (value : List Html) =>
    block 3 "tr" [] (cell 4 "decl-label" label ++ value)
  block 0 "div" (cls "appendix-page")
    (leaf 1 "div" (cls "appendix-title-bar") w.appendixTitle ++
    appendixBar w.appendixTaskBar ++
    leaf 1 "div" (cls "answer-box answer-box-large") v.taskText ++
    appendixBar w.appendixGuidanceBar ++
    block 1 "ul" (cls "appendix-guidance") (w.appendixGuidance.flatMap (leaf 2 "li" [])) ++
    (w.appendixMatrices.take 1).flatMap indentedMatrix ++
    given (!strategies.isEmpty)
      (appendixBar w.appendixStrategiesBar ++ strategies.flatMap indentedMatrix) ++
    appendixBar w.appendixExplanationBar ++
    leaf 1 "div" (cls "answer-box answer-box-large") v.descriptionText ++
    block 1 "table" (cls "decl-table")
      (block 2 "tbody" []
        (row "Trainer/Assessor Name" (cell 4 "decl-value" v.trainerName) ++
        row "Trainer/Assessor Declaration"
          (line 4
            [element "td" (cls "decl-value") [element "em" [] [text w.appendixDeclaration]]]) ++
        row "Trainer/Assessor Signature"
          (line 4 [element "td" (cls "decl-value")
            (eol :: maybeSignature v.signatureImage ++ [pad 4])]) ++
        row w.dateLabel (cell 4 "decl-value" v.signatureDate))))

/-- A section on reasonable adjustment. -/
def adjustmentBody (v : AdjustmentView) : List Html :=
  if v.appendix then adjustmentAppendix v else adjustmentBlock v

end Html

end FormPress
