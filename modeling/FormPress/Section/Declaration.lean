/-
  FormPress.Section.Declaration

  Declarations: a list to tick, blocks of signatures, a table for office use, or
  the questions one after the other.
-/
import FormPress.Section.Assessment

namespace FormPress

/-- A statement to tick. -/
structure ChecklistItem where
  label : String
  checked : Bool
  deriving Repr, DecidableEq, Inhabited

/-- A row for office use. -/
structure OfficeRow where
  label : String
  value : String
  deriving Repr, DecidableEq, Inhabited

/-- A question of a declaration without a form of its own. -/
inductive GenericItem where
  | signature (label : String) (view : SignatureView)
  | checkbox (label : String) (checked : Bool)
  | text (label value : String)
  deriving Repr, Inhabited

/-- A declaration. -/
inductive DeclarationView where
  | checklist (items : List ChecklistItem)
  | signatures (blocks : List SignatureView)
  | office (spanner : String) (rows : List OfficeRow)
  | generic (description : Option String) (items : List GenericItem)
  deriving Repr, Inhabited

namespace DeclarationView

/-- The statements of a section: its questions with a choice. -/
def checklistOf (questions : List QuestionNode) (answers : AnswerBook) : List ChecklistItem :=
  (questions.filter fun q => q.question.kind.isChoice).map fun q =>
    ⟨q.question.label, isAffirmative (answers.text q.question.id)⟩

/-- The signatures of a section. -/
def signaturesOf (questions : List QuestionNode) (answers : AnswerBook)
    (labels : DeclarationProfile) : List SignatureView :=
  (questions.filter fun q => q.question.kind == .signature).map fun q =>
    .ofQuestion q answers labels

/-- A question of a declaration, unless it is a page break. -/
def genericItem? (answers : AnswerBook) (labels : DeclarationProfile) (q : QuestionNode) :
    Option GenericItem :=
  let label := q.question.label
  if q.question.kind == .pageBreak then none
  else if q.question.kind == .signature then
    some (.signature label (.ofQuestion q answers labels))
  else if q.question.kind.isChoice then
    some (.checkbox label (isAffirmative (answers.text q.question.id)))
  else some (.text label (answers.text q.question.id))

/-- The declaration of a section. -/
def ofSection (n : SectionNode) (answers : AnswerBook) (p : Profile) : DeclarationView :=
  match n.header.effectiveKind with
  | .finalDeclaration => .checklist (checklistOf n.questions answers)
  | .signature => .signatures (signaturesOf n.questions answers p.declarations)
  | .officeUse =>
    .office p.declarations.officeSpanner
      (n.questions.map fun q => ⟨q.question.label, answers.text q.question.id⟩)
  | .generic =>
    .generic n.header.description (n.questions.filterMap (genericItem? answers p.declarations))

end DeclarationView

namespace Html

/-- A statement to tick. -/
def tickLine (label : String) (checked : Bool) : List Html :=
  block 1 "div" (cls "question declaration-checkbox")
    (line 2 [checkbox checked] ++ questionLabel 2 label)

/-- A block of a signature, its first line indented by one step and an empty line after it. -/
def indentedSignature (v : SignatureView) : List Html := line 1 (signatureBlock v)

/-- A question of a declaration. -/
def genericItem : GenericItem → List Html
  | .signature _ view => indentedSignature view
  | .checkbox label checked => tickLine label checked
  | .text label value =>
    block 1 "div" (cls "question")
      (leaf 2 "div" (cls "question-label") label ++ leaf 2 "div" (cls "answer-box") value)

/-- A table for office use. -/
def officeTable (spanner : String) (rows : List OfficeRow) : List Html :=
  block 0 "table" (cls "decl-table decl-office-table")
    (block 1 "tbody" []
      (block 2 "tr" []
        (leaf 3 "td" [attr "colspan" "2", attr "class" "decl-other-header"] spanner) ++
        rows.flatMap fun r =>
          block 2 "tr" []
            (cell 3 "decl-label decl-office-label" r.label ++ cell 3 "decl-value" r.value)))

/-- A declaration. -/
def declarationBody : DeclarationView → List Html
  | .checklist items =>
    block 0 "div" (cls "declarations-section") (items.flatMap fun i => tickLine i.label i.checked)
  | .signatures blocks =>
    block 0 "div" (cls "declarations-section") (blocks.flatMap indentedSignature)
  | .office spanner rows => officeTable spanner rows
  | .generic description items =>
    (match description with
      | some s => given (s != "") (line 0 [element "p" (cls "section-description") [rich s]])
      | none => []) ++
    block 0 "div" (cls "declarations-section") (items.flatMap genericItem)

end Html

end FormPress
