/-
  FormPress.Proofs.Section.Starts

  The tags of a section.  All of them are read as they are meant, and of the marks
  of an evaluation's layout (`LayoutMark`) a section has the introduction where its
  surroundings ask for it, and a page break and a closing bar where its rating
  table does (`SectionFragment.content_tags`).  No other layout has any mark.
-/
import FormPress.Proofs.Markup.Starts
import FormPress.Section.Fragment

namespace FormPress

/-! ## Marks -/

/-- What the layout of a learner evaluation puts into a document beside its sections. -/
inductive LayoutMark where
  | intro
  | pageBreak
  | closingBar
  deriving Repr, DecidableEq, Inhabited

/-- The mark that the classes of an element stand for. -/
def LayoutMark.ofClass? (names : String) : Option LayoutMark :=
  if names = "learner-eval-intro" then some .intro
  else if names = "likert-table-with-comments likert-page-break" then some .pageBreak
  else if names = "learner-eval-grey-bar" then some .closingBar
  else none

/-- The mark in an attribute; only fixed texts are marks. -/
def Attr.mark? (a : Attr) : Option LayoutMark :=
  match a.parts with
  | [.fixed names] => LayoutMark.ofClass? names
  | _ => none

/-- The marks in a tag. -/
def Start.marks (s : Start) : List LayoutMark := s.attrs.filterMap Attr.mark?

namespace Html

mutual

/-- The marks in some markup, in order. -/
def marks : Html → List LayoutMark
  | lone tag attrs ending => Start.marks ⟨tag, attrs, some ending⟩
  | element tag attrs children => Start.marks ⟨tag, attrs, none⟩ ++ marksAll children
  | _ => []

/-- The marks in a sequence of nodes, in order. -/
def marksAll : List Html → List LayoutMark
  | [] => []
  | h :: hs => h.marks ++ marksAll hs

end

@[simp] theorem marksAll_append (hs ks : List Html) :
    marksAll (hs ++ ks) = marksAll hs ++ marksAll ks := by
  induction hs with
  | nil => rfl
  | cons h hs ih => rw [List.cons_append, marksAll, ih, marksAll, List.append_assoc]

@[simp] theorem marksAll_line (depth : Nat) (nodes : List Html) :
    marksAll (line depth nodes) = marksAll nodes := by
  have heol : marksAll [eol] = [] := rfl
  have hpad : (pad depth).marks = [] := rfl
  rw [line, List.cons_append, marksAll, marksAll_append, heol, hpad, List.nil_append,
    List.append_nil]

@[simp] theorem marksAll_element (tag : String) (attrs : List Attr) (children : List Html) :
    marksAll [element tag attrs children] =
      Start.marks ⟨tag, attrs, none⟩ ++ marksAll children := by
  rw [marksAll, marksAll, marks, List.append_nil]

@[simp] theorem marksAll_block (depth : Nat) (tag : String) (attrs : List Attr)
    (children : List Html) :
    marksAll (block depth tag attrs children) =
      Start.marks ⟨tag, attrs, none⟩ ++ marksAll children := by
  have heol : marksAll (eol :: children) = marksAll children := rfl
  have hpad : marksAll [pad depth] = [] := rfl
  rw [block, marksAll_line, spanning, marksAll_element, marksAll_append, heol, hpad,
    List.append_nil]

mutual

/-- Markup has no marks if none of its tags has one. -/
theorem Each.marks_eq : ∀ {h : Html}, h.Each (fun s => s.marks = []) → h.marks = []
  | text _, _ => rfl
  | charRef _, _ => rfl
  | rich _, _ => rfl
  | doctype, _ => rfl
  | style _, _ => rfl
  | lone .., hstart => hstart
  | element .., ⟨hstart, hchildren⟩ => by
      rw [marks, hstart, hchildren.marks_eq, List.nil_append]

/-- A sequence has no marks if none of its tags has one. -/
theorem EachAll.marks_eq :
    ∀ {hs : List Html}, EachAll (fun s => s.marks = []) hs → marksAll hs = []
  | [], _ => rfl
  | _ :: _, ⟨hfirst, hrest⟩ => by
      rw [marksAll, hfirst.marks_eq, hrest.marks_eq, List.nil_append]

end

end Html

/-! ## Tags of the layouts -/

/-- A tag that is read as it is meant and has no mark. -/
structure Start.Ordinary (s : Start) : Prop where
  sound : s.Sound
  unmarked : s.marks = []

/-- What has to be checked of a tag without a mark. -/
theorem Start.ordinary_iff (s : Start) : s.Ordinary ↔ s.Sound ∧ s.marks = [] :=
  ⟨fun h => ⟨h.sound, h.unmarked⟩, fun ⟨hs, hm⟩ => ⟨hs, hm⟩⟩

-- A tag of a template is checked by taking it apart down to its names and fixed texts.
attribute [local simp] Start.ordinary_iff Start.sound_iff Start.isEnded voidNames isNameChar
  Attr.staysInTag Start.marks Attr.mark? LayoutMark.ofClass? Html.cls Html.attr Html.attrOf

namespace Html

/-- Ordinary tags are read as they are meant. -/
theorem EachAll.sound {hs : List Html} (h : EachAll Start.Ordinary hs) : EachAll Start.Sound hs :=
  h.mono fun _ => Start.Ordinary.sound

/-- Ordinary tags have no marks. -/
theorem EachAll.unmarked {hs : List Html} (h : EachAll Start.Ordinary hs) : marksAll hs = [] :=
  (h.mono fun _ => Start.Ordinary.unmarked).marks_eq

theorem ordinary_detailBody (v : DetailView) : EachAll Start.Ordinary (detailBody v) := by
  simp [detailBody, detailGroup, labelAndValue]

theorem ordinary_participantBody (v : ParticipantView) :
    EachAll Start.Ordinary (participantBody v) := by
  simp [participantBody, labelAndValue]

theorem ordinary_radio (filled : Bool) : (radio filled).Each Start.Ordinary := by
  cases filled <;> simp [radio]

theorem ordinary_likertRow (r : LikertRow) : EachAll Start.Ordinary (likertRow r) := by
  cases hhelp : r.help <;> simp [likertRow, hhelp, ordinary_radio]

theorem ordinary_gridBody (v : GridView) : EachAll Start.Ordinary (gridBody v) := by
  have hlead (r : GridRow) : EachAll Start.Ordinary (gridLead v r) := by
    rw [gridLead]
    split <;> simp
  simp [gridBody, hlead]

theorem ordinary_tasksBody (v : TasksView) : EachAll Start.Ordinary (tasksBody v) := by
  simp [tasksBody]

theorem ordinary_checkbox (checked : Bool) : (checkbox checked).Each Start.Ordinary := by
  cases checked <;> simp [checkbox]

theorem ordinary_submissionBody (v : SubmissionView) :
    EachAll Start.Ordinary (submissionBody v) := by
  have hitem (i : SubmissionItem) : EachAll Start.Ordinary (submissionItem i) := by
    cases hspan : i.spanFull <;> simp [submissionItem, questionLabel, ordinary_checkbox, hspan]
  simp [submissionBody, hitem]

theorem ordinary_maybeSignature (address : Option String) :
    EachAll Start.Ordinary (maybeSignature address) := by
  cases address <;> simp [maybeSignature, signatureImage]

theorem ordinary_matrix (m : AppendixMatrix) : EachAll Start.Ordinary (matrix m) := by
  have hlines (lines : List String) : EachAll Start.Ordinary (lines.map text) := by
    induction lines with
    | nil => exact eachAll_nil
    | cons s lines ih => exact ⟨each_text s, ih⟩
  have hcell (lines : List String) : EachAll Start.Ordinary (matrixCell lines) := by
    rw [matrixCell]
    split <;> simp [hlines]
  simp [matrix, hcell]

theorem ordinary_adjustmentBody (v : AdjustmentView) :
    EachAll Start.Ordinary (adjustmentBody v) := by
  rw [adjustmentBody]
  split
  · simp [adjustmentAppendix, appendixBar, indentedMatrix, ordinary_matrix,
      ordinary_maybeSignature]
  · simp [adjustmentBlock, radioWord, answerBox, ordinary_radio, ordinary_maybeSignature]

theorem ordinary_signatureBlock (v : SignatureView) :
    EachAll Start.Ordinary (signatureBlock v) := by
  cases himage : v.image with
  | none => simp [signatureBlock, declarationRow, himage]
  | some address =>
      cases haddress : address == "" <;>
        simp [signatureBlock, declarationRow, signatureImage, himage, haddress]

theorem ordinary_declarationBody (v : DeclarationView) :
    EachAll Start.Ordinary (declarationBody v) := by
  have htick (label : String) (checked : Bool) :
      EachAll Start.Ordinary (tickLine label checked) := by
    simp [tickLine, questionLabel, ordinary_checkbox]
  have hitem (i : GenericItem) : EachAll Start.Ordinary (genericItem i) := by
    cases i with
    | signature label view => simp [genericItem, indentedSignature, ordinary_signatureBlock]
    | checkbox label checked => exact htick label checked
    | text label value => simp [genericItem]
  cases v with
  | checklist items => simp [declarationBody, htick]
  | signatures blocks => simp [declarationBody, indentedSignature, ordinary_signatureBlock]
  | office spanner rows => simp [declarationBody, officeTable]
  | generic description items => cases description <;> simp [declarationBody, hitem]

theorem ordinary_heading (g : Heading) : EachAll Start.Ordinary (heading g) := by
  cases hbar : g.bar <;> cases hdescription : g.description <;> simp [heading, hbar, hdescription]

/-! ## Tags with marks -/

/-- Inside a rating table no tag has a mark. -/
theorem likertBody_eq (v : LikertView) :
    ∃ inner, likertBody v =
        block 0 "div" (cls (if v.pageBreakBefore then "likert-table-with-comments likert-page-break"
          else "likert-table-with-comments")) inner ++
        given v.closingBar (line 0 [element "div" (cls "learner-eval-grey-bar") []]) ∧
      EachAll Start.Ordinary inner := by
  refine ⟨_, rfl, ?_⟩
  cases v.comments <;> simp [ordinary_likertRow]

/-- A rating table has its marks in its own tag and in that of the bar behind it. -/
theorem likertBody_tags (v : LikertView) :
    EachAll Start.Sound (likertBody v) ∧
      marksAll (likertBody v) =
        (if v.pageBreakBefore then [.pageBreak] else []) ++
          if v.closingBar then [.closingBar] else [] := by
  obtain ⟨inner, hbody, hinner⟩ := likertBody_eq v
  rw [hbody, eachAll_append, eachAll_block, marksAll_append, marksAll_block, hinner.unmarked]
  refine ⟨⟨⟨?_, hinner.sound⟩, ?_⟩, ?_⟩
  · cases v.pageBreakBefore <;> simp
  · simp
  · have hbar : marksAll (given v.closingBar
        (line 0 [element "div" (cls "learner-eval-grey-bar") []])) =
          if v.closingBar then [.closingBar] else [] := by
      cases v.closingBar with
      | true => simp [given, marks, marksAll]
      | false => rfl
    rw [hbar]
    cases v.pageBreakBefore <;> simp

/-- The introduction has its own mark and no other. -/
theorem learnerIntro_tags (e : EvaluationProfile) :
    EachAll Start.Sound (learnerIntro e) ∧ marksAll (learnerIntro e) = [.intro] := by
  have hinner : EachAll Start.Ordinary (leaf 1 "div" (cls "appendix-title-bar") e.title ++
      maybeParagraph 1 e.intro ++ maybeBullets 1 e.bullets ++ maybeParagraph 1 e.closing) := by
    simp [maybeParagraph, maybeBullets]
  rw [learnerIntro, eachAll_block, marksAll_block, hinner.unmarked]
  exact ⟨⟨by simp, hinner.sound⟩, by simp⟩

end Html

/-! ## Tags of sections -/

/-- The marks that a view asks for. -/
def SectionView.marks : SectionView → List LayoutMark
  | likert v => (if v.pageBreakBefore then [.pageBreak] else []) ++
      if v.closingBar then [.closingBar] else []
  | _ => []

/-- A view has the marks that it asks for. -/
theorem SectionView.body_tags (v : SectionView) :
    Html.EachAll Start.Sound v.body ∧ Html.marksAll v.body = v.marks := by
  have hordinary {hs : List Html} (h : Html.EachAll Start.Ordinary hs) :
      Html.EachAll Start.Sound hs ∧ Html.marksAll hs = [] := ⟨h.sound, h.unmarked⟩
  -- All layouts but the rating table have ordinary tags only.
  cases v with
  | details v => exact hordinary (Html.ordinary_detailBody v)
  | participant v => exact hordinary (Html.ordinary_participantBody v)
  | likert v => exact Html.likertBody_tags v
  | grid v => exact hordinary (Html.ordinary_gridBody v)
  | tasks v => exact hordinary (Html.ordinary_tasksBody v)
  | submission v => exact hordinary (Html.ordinary_submissionBody v)
  | adjustment v => exact hordinary (Html.ordinary_adjustmentBody v)
  | declaration v => exact hordinary (Html.ordinary_declarationBody v)

namespace SectionFragment

variable (n : SectionNode) (answers : AnswerBook) (p : Profile) (number : Option Int)
  (c : SectionContext)

/-- What stands in the element of a section: the introduction, the heading and the view. -/
theorem content_tags :
    (ofSection n answers p number c).content.Each Start.Sound ∧
      (ofSection n answers p number c).content.marks =
        (if c.showLearnerIntro then [.intro] else []) ++
          (SectionView.ofSection n answers p c).marks := by
  have hintro :
      let intro := Html.given c.showLearnerIntro (Html.learnerIntro p.evaluation)
      Html.EachAll Start.Sound intro ∧
        Html.marksAll intro = if c.showLearnerIntro then [.intro] else [] := by
    cases c.showLearnerIntro with
    | true => exact Html.learnerIntro_tags p.evaluation
    | false => exact ⟨Html.eachAll_nil, rfl⟩
  have hheading : Html.EachAll Start.Ordinary
      (((Heading.ofSection n.header number).map Html.heading).getD []) := by
    cases Heading.ofSection n.header number with
    | none => exact Html.eachAll_nil
    | some g => exact Html.ordinary_heading g
  obtain ⟨hsound, hmarks⟩ := (SectionView.ofSection n answers p c).body_tags
  have hstart : (⟨"div", [⟨"class", [.fixed "section section-", .value n.header.mode.word]⟩,
      Html.attrOf "data-section-id" (toString n.header.id)], none⟩ : Start).Ordinary := by
    simp
  have heol (hs : List Html) : Html.marksAll (Html.eol :: hs) = Html.marksAll hs := rfl
  constructor
  · simp only [ofSection, Html.each_element, List.cons_append, Html.eachAll_cons,
      Html.eachAll_append]
    exact ⟨hstart.sound, Html.each_eol, ⟨hintro.1, hheading.sound⟩, hsound⟩
  · rw [ofSection, Html.marks, hstart.unmarked, List.nil_append, List.cons_append,
      List.cons_append, heol, Html.marksAll_append, Html.marksAll_append, hintro.2,
      hheading.unmarked, hmarks, List.append_nil]

end SectionFragment

end FormPress
