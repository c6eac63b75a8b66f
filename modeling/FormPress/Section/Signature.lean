/-
  FormPress.Section.Signature

  Signatures: what an answer says about a signature (`AnswerValue.signature`),
  and the block in which it is shown. Where there is no picture, the name stands
  for it.
-/
import FormPress.Answers.Book
import FormPress.Html.Basic
import FormPress.Profile.Basic

namespace FormPress

/-! ## Reading -/

/-- A signature: its picture, the name of the signer and the date. -/
structure Signature where
  image : Option String
  name : String
  date : String
  deriving Repr, DecidableEq, Inhabited

/-- The first text that is not empty among some fields. -/
def Fields.firstText (fields : Fields) : List String → Option String
  | [] => none
  | name :: names =>
    match fields.get name with
    | .text s => if s == "" then fields.firstText names else some s
    | _ => fields.firstText names

/-- What the first field that is not null shows. -/
def Fields.firstShown (fields : Fields) : List String → String
  | [] => ""
  | name :: names =>
    let v := fields.get name
    if v.isNull then fields.firstShown names else v.shown

/-- The text, or another one where it is blank. -/
def orText (s other : String) : String := if s == "" then other else s

/-- The signature in an answer: an object has fields for its parts, a text that is a picture's
    address is the picture. -/
def AnswerValue.signature (v : AnswerValue) (fallbackName : String) : Signature :=
  match v with
  | .structured (.object fields) =>
    { image := Fields.firstText fields ["signature", "imageDataUrl"]
      name := orText (Fields.firstShown fields ["name", "fullName"]) fallbackName
      date := Fields.firstShown fields ["date", "signedAtDate"] }
  | .text s =>
    if "data:".toList.isPrefixOf s.toList then ⟨some s, fallbackName, ""⟩
    else ⟨none, fallbackName, ""⟩
  | _ => ⟨none, fallbackName, ""⟩

/-! ## Showing -/

/-- A signature as it is shown. -/
structure SignatureView where
  label : String
  nameLabel : String
  name : String
  image : Option String
  date : String
  showName : Bool
  showDate : Bool
  dateLabel : String
  deriving Repr, Inhabited

namespace SignatureView

/-- What stands in place of a picture. -/
def substitute (v : SignatureView) : String := orText v.name "-"

/-- Whether a setting is on: only the value no turns it off. -/
def settingOn (fields : Fields) (name : String) : Bool :=
  match fields.get name with
  | .bool b => b
  | _ => true

/-- The signature of a question. -/
def ofQuestion (q : QuestionNode) (answers : AnswerBook) (labels : DeclarationProfile) :
    SignatureView :=
  let question := q.question
  let fallback := answers.codeText [signerNameCode question.code]
  let signature := (answers.value question.id).signature fallback
  { label := question.label
    nameLabel :=
      if isStudentCode question.code then labels.studentNameLabel else labels.trainerNameLabel
    name := signature.name
    image := signature.image
    date := signature.date
    showName := settingOn question.settings "showNameField"
    showDate := settingOn question.settings "showDateField"
    dateLabel := labels.dateLabel }

end SignatureView

namespace Html

/-- The picture of a signature. -/
def signatureImage (address : String) : Html :=
  lone "img" [attrOf "src" address, attr "class" "signature-img", attr "alt" "Signature"]
    .spacedSlash

/-- A row of a declarations table with a label and a value. -/
def declarationRow (depth : Nat) (label : String) (value : List Html) : List Html :=
  block depth "tr" [] (cell (depth + 1) "decl-label" label ++ value)

/-- The block of a signature, from its first tag on. -/
def signatureBlock (v : SignatureView) : List Html :=
  let mark :=
    match v.image with
    | some address =>
      if address == "" then leaf 5 "span" (cls "decl-sig-value") v.substitute
      else line 5 [signatureImage address]
    | none => leaf 5 "span" (cls "decl-sig-value") v.substitute
  block 0 "div" (cls "decl-sig-block")
    (leaf 1 "div" (cls "decl-sig-heading") v.label ++
      block 1 "table" (cls "decl-table")
        (block 2 "tbody" []
          (given v.showName (declarationRow 3 v.nameLabel (cell 4 "decl-value" v.name)) ++
            declarationRow 3 v.label (block 4 "td" (cls "decl-value") mark) ++
            given v.showDate (declarationRow 3 v.dateLabel (cell 4 "decl-value" v.date)))))

end Html

end FormPress
