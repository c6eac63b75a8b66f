/-
  FormPress.Proofs.Markup.Blank

  Views with their answers taken out.  A blank view keeps what the form says and
  how many cells there are, and of a signature only whether it has a picture.
  Its markup has the outline of the filled one (`SectionView.outline_blank`),
  because answers are shown as escaped text, as values of attributes or by
  marks without markup characters of their own.
-/
import FormPress.Proofs.Markup.Outline
import FormPress.Section.Fragment

namespace FormPress

/-! ## Blank views -/

/-- A detail row without its answer. -/
def DetailRow.blank (r : DetailRow) : DetailRow := { r with value := "" }

/-- A group of detail rows without answers. -/
def DetailGroup.blank (g : DetailGroup) : DetailGroup := { g with rows := g.rows.map .blank }

/-- A plain table without answers. -/
def DetailView.blank (v : DetailView) : DetailView := { v with groups := v.groups.map .blank }

/-- A detail of a participant without its answer. -/
def ParticipantCell.blank (c : ParticipantCell) : ParticipantCell := { c with value := "" }

/-- The table of a participant without answers. -/
def ParticipantView.blank (v : ParticipantView) : ParticipantView :=
  ⟨v.rows.map fun row => row.map .blank⟩

/-- A row of a rating table without a choice. -/
def LikertRow.blank (r : LikertRow) : LikertRow :=
  { r with selected := none, cells := r.cells.map fun _ => false }

/-- An empty box for comments. -/
def CommentsBox.blank (b : CommentsBox) : CommentsBox := { b with value := "" }

/-- A rating table without choices and comments. -/
def LikertView.blank (v : LikertView) : LikertView :=
  { v with rows := v.rows.map .blank, comments := v.comments.map .blank }

/-- A row of a grid table with empty cells. -/
def GridRow.blank (r : GridRow) : GridRow := { r with cells := r.cells.map fun _ => "" }

/-- A grid table with empty cells. -/
def GridView.blank (v : GridView) : GridView := { v with rows := v.rows.map .blank }

/-- A way of submission that is not chosen. -/
def SubmissionItem.blank (i : SubmissionItem) : SubmissionItem :=
  { i with checked := false, otherText := "" }

/-- The ways of submission, none of them chosen. -/
def SubmissionView.blank (v : SubmissionView) : SubmissionView :=
  { v with items := v.items.map .blank }

/-- A stand-in for a picture that has an address. -/
def blankPicture (address : Option String) : Option String :=
  address.map fun s => if s == "" then "" else "data:"

/-- A signature of which only the presence of a picture is left. -/
def SignatureView.blank (v : SignatureView) : SignatureView :=
  { v with name := "", image := blankPicture v.image, date := "" }

/-- A section on reasonable adjustment without answers. -/
def AdjustmentView.blank (v : AdjustmentView) : AdjustmentView :=
  { v with
    appliedYes := false, appliedNo := false, taskText := "", descriptionText := ""
    signatureImage := blankPicture v.signatureImage, signatureDate := "", trainerName := "" }

/-- A statement that is not ticked. -/
def ChecklistItem.blank (i : ChecklistItem) : ChecklistItem := { i with checked := false }

/-- A row for office use without its answer. -/
def OfficeRow.blank (r : OfficeRow) : OfficeRow := { r with value := "" }

/-- A question of a declaration without its answer. -/
def GenericItem.blank : GenericItem → GenericItem
  | .signature label view => .signature label view.blank
  | .checkbox label _ => .checkbox label false
  | .text label _ => .text label ""

/-- A declaration without answers. -/
def DeclarationView.blank : DeclarationView → DeclarationView
  | .checklist items => .checklist (items.map .blank)
  | .signatures blocks => .signatures (blocks.map .blank)
  | .office spanner rows => .office spanner (rows.map .blank)
  | .generic description items => .generic description (items.map .blank)

/-- What a section shows before it is answered, signatures apart. -/
def SectionView.blank : SectionView → SectionView
  | .details v => .details v.blank
  | .participant v => .participant v.blank
  | .likert v => .likert v.blank
  | .grid v => .grid v.blank
  | .tasks v => .tasks v
  | .submission v => .submission v.blank
  | .adjustment v => .adjustment v.blank
  | .declaration v => .declaration v.blank

namespace Html

/-! ## Marks -/

/-- Of a class only the markup characters count. -/
theorem attrsOutline_cls {name other : String} (h : markupOf name = markupOf other) :
    attrsOutline (cls name) = attrsOutline (cls other) := by
  simp only [cls, attr, attrsOutline_cons, partsOutline, List.flatMap_cons, AttrPart.render, h]

/-- A filled circle has the outline of an empty one. -/
theorem outline_radio (filled : Bool) (hs : List Html) :
    outline (radio filled :: hs) = outline (radio false :: hs) := by
  cases filled with
  | false => rfl
  | true =>
      -- The two classes differ in letters alone.
      have hclass : markupOf "radio-circle filled" = markupOf "radio-circle" := by decide
      rw [radio, outline_element, if_pos rfl, attrsOutline_cls hclass, radio, outline_element,
        if_neg (by decide)]

/-- A ticked box has the outline of an empty one. -/
theorem outline_checkbox (checked : Bool) (hs : List Html) :
    outline (checkbox checked :: hs) = outline (checkbox false :: hs) := by
  cases checked with
  | false => rfl
  | true =>
      have hclass : markupOf "cb checked" = markupOf "cb" := by decide
      rw [checkbox, if_pos rfl, outline_element, outline_charRef, attrsOutline_cls hclass, checkbox,
        if_neg (by decide), outline_element]

/-- The address of a picture does not show in its outline. -/
theorem outline_signatureImage (address : String) (hs : List Html) :
    outline (signatureImage address :: hs) = outline (signatureImage "data:" :: hs) := by
  rw [signatureImage, outline_lone, attrsOutline_attrOf, signatureImage, outline_lone,
    attrsOutline_attrOf "src" "data:"]

/-! ## Bodies -/

theorem outline_detailGroup_blank (g : DetailGroup) :
    outline (detailGroup g.blank) = outline (detailGroup g) := by
  simp [detailGroup, DetailGroup.blank, DetailRow.blank, List.flatMap_map, labelAndValue]

/-- A plain table has the same outline without its answers. -/
theorem outline_detailBody_blank (v : DetailView) :
    outline (detailBody v.blank) = outline (detailBody v) := by
  simp [detailBody, DetailView.blank, List.flatMap_map, outline_detailGroup_blank]

theorem outline_participantBody_blank (v : ParticipantView) :
    outline (participantBody v.blank) = outline (participantBody v) := by
  simp [participantBody, ParticipantView.blank, ParticipantCell.blank, List.flatMap_map,
    labelAndValue]

/-- A row of ratings has the same outline whichever circle is filled. -/
theorem outline_likertRow_blank (r : LikertRow) :
    outline (likertRow r.blank) = outline (likertRow r) := by
  simp only [likertRow, LikertRow.blank, outline_block, outline_append, outline_cell,
    outline_line, outline_flatMap, List.flatMap_map, outline_element, outline_radio _ []]

theorem outline_likertBody_blank (v : LikertView) :
    outline (likertBody v.blank) = outline (likertBody v) := by
  cases hbox : v.comments <;>
    simp [likertBody, LikertView.blank, LikertView.spanner, CommentsBox.blank, hbox,
      List.flatMap_map, outline_likertRow_blank]

/-- A row of a grid has the same outline with empty cells. -/
theorem outline_gridRow_blank (v : GridView) (r : GridRow) :
    outline (gridLead v.blank r.blank ++ r.blank.cells.flatMap (cell 3 "grid-cell")) =
      outline (gridLead v r ++ r.cells.flatMap (cell 3 "grid-cell")) := by
  -- What stands in front of the columns shows no answers.
  have hlead : gridLead v.blank r.blank = gridLead v r := rfl
  rw [hlead]
  simp only [GridRow.blank, List.flatMap_map, outline_append, outline_flatMap, outline_cell]

theorem outline_gridBody_blank (v : GridView) :
    outline (gridBody v.blank) = outline (gridBody v) := by
  have hblank : v.blank.rows = v.rows.map .blank := rfl
  have hrows : outline (v.blank.rows.flatMap fun r =>
        block 2 "tr" [] (gridLead v.blank r ++ r.cells.flatMap (cell 3 "grid-cell"))) =
      outline (v.rows.flatMap fun r =>
        block 2 "tr" [] (gridLead v r ++ r.cells.flatMap (cell 3 "grid-cell"))) := by
    rw [hblank, List.flatMap_map, outline_flatMap, outline_flatMap]
    simp only [outline_block, outline_gridRow_blank]
  rw [gridBody, gridBody, outline_block, outline_block, outline_append, outline_append,
    outline_block 1 "tbody", outline_block 1 "tbody", hrows]
  rfl

/-- A way of submission has the same outline whether it is chosen or not. -/
theorem outline_submissionItem_blank (i : SubmissionItem) :
    outline (submissionItem i.blank) = outline (submissionItem i) := by
  simp only [submissionItem, SubmissionItem.blank, outline_block, outline_append, outline_line,
    outline_given, outline_leaf, questionLabel, outline_checkbox _ []]
  rfl

theorem outline_submissionBody_blank (v : SubmissionView) :
    outline (submissionBody v.blank) = outline (submissionBody v) := by
  simp [submissionBody, SubmissionView.blank, List.flatMap_map, outline_submissionItem_blank]

/-- The stand-in for a picture has the outline of the picture. -/
theorem outline_maybeSignature_blank (address : Option String) :
    outline (maybeSignature (blankPicture address)) = outline (maybeSignature address) := by
  cases address with
  | none => rfl
  | some s =>
      -- An empty address stands for no picture, with or without the stand-in.
      by_cases hs : s = ""
      · simp [blankPicture, maybeSignature, hs]
      · have hgiven : (s != "") = true := by simpa using hs
        simp [blankPicture, maybeSignature, hs, hgiven, outline_signatureImage s []]

theorem outline_adjustmentBlock_blank (v : AdjustmentView) :
    outline (adjustmentBlock v.blank) = outline (adjustmentBlock v) := by
  simp only [adjustmentBlock, AdjustmentView.blank, answerBox, radioWord, outline_append,
    outline_given, outline_line, outline_block, outline_leaf, outline_element, outline_eol,
    outline_maybeSignature_blank, outline_radio _ [_]]

theorem outline_adjustmentAppendix_blank (v : AdjustmentView) :
    outline (adjustmentAppendix v.blank) = outline (adjustmentAppendix v) := by
  simp only [adjustmentAppendix, AdjustmentView.blank, outline_append, outline_line, outline_block,
    outline_leaf, outline_cell, outline_element, outline_eol, outline_maybeSignature_blank]

theorem outline_adjustmentBody_blank (v : AdjustmentView) :
    outline (adjustmentBody v.blank) = outline (adjustmentBody v) := by
  have happendix : v.blank.appendix = v.appendix := rfl
  rw [adjustmentBody, adjustmentBody, happendix]
  split
  · exact outline_adjustmentAppendix_blank v
  · exact outline_adjustmentBlock_blank v

/-- The mark of a signature, its picture or the name in its place. -/
theorem outline_signatureBlock_blank (v : SignatureView) :
    outline (signatureBlock v.blank) = outline (signatureBlock v) := by
  cases himage : v.image with
  | none => simp [signatureBlock, SignatureView.blank, blankPicture, declarationRow, himage]
  | some s =>
      by_cases hs : s = ""
      · simp [signatureBlock, SignatureView.blank, blankPicture, declarationRow, himage, hs]
      · simp [signatureBlock, SignatureView.blank, blankPicture, declarationRow, himage, hs,
          outline_signatureImage s []]

/-- A ticked line has the outline of one that is not. -/
theorem outline_tickLine (label : String) (checked : Bool) :
    outline (tickLine label checked) = outline (tickLine label false) := by
  simp only [tickLine, outline_block, outline_append, outline_line, questionLabel, outline_leaf,
    outline_checkbox checked []]

theorem outline_genericItem_blank (i : GenericItem) :
    outline (genericItem i.blank) = outline (genericItem i) := by
  cases i with
  | signature label view =>
      simp only [genericItem, GenericItem.blank, indentedSignature, outline_line,
        outline_signatureBlock_blank]
  | checkbox label checked =>
      rw [GenericItem.blank, genericItem, genericItem, outline_tickLine label checked]
  | text label value => simp [genericItem, GenericItem.blank]

/-- A declaration has the same outline without its answers. -/
theorem outline_declarationBody_blank (v : DeclarationView) :
    outline (declarationBody v.blank) = outline (declarationBody v) := by
  cases v with
  | checklist items =>
      simp only [declarationBody, DeclarationView.blank, ChecklistItem.blank, outline_block,
        outline_flatMap, List.flatMap_map, outline_tickLine _ _]
  | signatures blocks =>
      simp only [declarationBody, DeclarationView.blank, indentedSignature, outline_block,
        outline_flatMap, List.flatMap_map, outline_line, outline_signatureBlock_blank]
  | office spanner rows =>
      simp [declarationBody, DeclarationView.blank, officeTable, OfficeRow.blank, List.flatMap_map]
  | generic description items =>
      cases description <;>
        simp [declarationBody, DeclarationView.blank, List.flatMap_map, outline_genericItem_blank]

end Html

/-- The markup of a view has the outline of that of the blank view. -/
theorem SectionView.outline_blank (v : SectionView) :
    Html.outline v.blank.body = Html.outline v.body := by
  cases v with
  | details v => exact Html.outline_detailBody_blank v
  | participant v => exact Html.outline_participantBody_blank v
  | likert v => exact Html.outline_likertBody_blank v
  | grid v => exact Html.outline_gridBody_blank v
  | tasks v => rfl
  | submission v => exact Html.outline_submissionBody_blank v
  | adjustment v => exact Html.outline_adjustmentBody_blank v
  | declaration v => exact Html.outline_declarationBody_blank v

end FormPress
