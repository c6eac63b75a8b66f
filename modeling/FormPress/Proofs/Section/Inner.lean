/-
  FormPress.Proofs.Section.Inner

  No layout of a section opens a page container of its own, nor does the heading or
  the introduction in front of it: the tags of every view are those of other
  elements, and its trusted texts stand alone in theirs (`SectionView.inner_body`).
  The proofs go along the trees.
-/
import FormPress.Proofs.Markup.Inner
import FormPress.Section.Fragment

namespace FormPress.Html

/-! ## Tables of answers -/

/-- The tag of a row that is shaded. -/
theorem otherTag_shaded (shade : Shade) : OtherTag "tr" [attrOf "class" shade.word] :=
  .of_head rfl (by decide) (.attrOf _ rfl (by decide) .nil)

theorem inner_labelAndValue (depth : Nat) (label value : String) :
    InnerAll (labelAndValue depth label value) :=
  .append (.cell rfl (by decide)) (.cell rfl (by decide))

theorem inner_detailGroup (g : DetailGroup) : InnerAll (detailGroup g) := by
  have htitle : OtherTag "td" [attr "colspan" "2", attr "class" "sub-section-header"] :=
    .of_head rfl (by decide) (.attr rfl rfl (by decide) (.attr rfl rfl (by decide) .nil))
  refine .append (.block (.bare rfl (by decide)) (.leaf htitle)) (.flatMap fun r _ => ?_)
  exact .block (otherTag_shaded r.shade) (inner_labelAndValue 3 r.label r.value)

theorem inner_detailBody (v : DetailView) : InnerAll (detailBody v) := by
  refine .append (.flatMap fun s _ => .trusted (.divCls rfl (by decide)) s) (.given _ ?_)
  refine .block (.cls rfl (by decide) rfl (by decide)) (.block (.bare rfl (by decide)) ?_)
  exact .flatMap fun g _ => inner_detailGroup g

theorem inner_participantBody (v : ParticipantView) : InnerAll (participantBody v) := by
  refine .block (.cls rfl (by decide) rfl (by decide)) (.block (.bare rfl (by decide)) ?_)
  refine .flatMap fun pair _ => .block (.bare rfl (by decide)) (.flatMap fun c _ => ?_)
  exact inner_labelAndValue 3 c.label c.value

/-! ## Rating tables -/

theorem inner_radio (filled : Bool) : (radio filled).Inner := by
  cases filled with
  | true => exact .empty (.cls rfl (by decide) rfl (by decide))
  | false => exact .empty (.cls rfl (by decide) rfl (by decide))

theorem inner_likertRow (r : LikertRow) : InnerAll (likertRow r) := by
  refine .block (otherTag_shaded r.shade) (.append (.append (.cell rfl (by decide)) ?_) ?_)
  · refine .line (.single (.holding (.cls rfl (by decide) rfl (by decide)) (.lines ?_)))
    refine .append (.line (.single (.text _))) ?_
    cases r.help with
    | none => exact .nil
    | some s => exact .given _ (.single (.trusted (.divCls rfl (by decide)) s))
  · refine .flatMap fun filled _ => .line (.single ?_)
    exact .holding (.cls rfl (by decide) rfl (by decide)) (.single (inner_radio filled))

theorem inner_likertBody (v : LikertView) : InnerAll (likertBody v) := by
  have htitle : OtherTag "td" [attrOf "colspan" (toString (v.scaleLabels.length + 1)),
      attr "class" "likert-section-title"] :=
    .of_head rfl (by decide) (.attrOf _ rfl (by decide) (.attr rfl rfl (by decide) .nil))
  have htable : OtherTag "div" (cls (if v.pageBreakBefore then
      "likert-table-with-comments likert-page-break" else "likert-table-with-comments")) := by
    cases v.pageBreakBefore with
    | true => exact .divCls rfl (by decide)
    | false => exact .divCls rfl (by decide)
  refine .append (.block htable (.append ?_ ?_)) (.given _ (.line (.single ?_)))
  · refine .block (.cls rfl (by decide) rfl (by decide)) (.append ?_ ?_)
    · refine .block (.bare rfl (by decide)) (.append (.block (.bare rfl (by decide)) ?_) ?_)
      · refine .append (.append ?_ ?_) (.flatMap fun label _ => .line (.single ?_))
        · exact .leaf (.cls rfl (by decide) rfl (by decide))
        · exact .leaf (.cls rfl (by decide) rfl (by decide))
        · refine .holding (.cls rfl (by decide) rfl (by decide)) (.single ?_)
          refine .holding (.divCls rfl (by decide)) (.single ?_)
          exact .holding (.bare rfl (by decide)) (.single (.text label))
      · exact .block (.cls rfl (by decide) rfl (by decide))
          (.append (.cell rfl (by decide)) (.leaf htitle))
    · exact .block (.bare rfl (by decide)) (.flatMap fun r _ => inner_likertRow r)
  · cases v.comments with
    | none => exact .nil
    | some box =>
        exact .block (.divCls rfl (by decide))
          (.append (.leaf (.divCls rfl (by decide))) (.leaf (.divCls rfl (by decide))))
  · exact .empty (.divCls rfl (by decide))

/-! ## Grid tables -/

theorem inner_gridLead (v : GridView) (r : GridRow) : InnerAll (gridLead v r) := by
  rw [gridLead]
  split
  · exact .append (.cell rfl (by decide)) (.cell rfl (by decide))
  · have himage : OtherTag "img" [attrOf "src" (r.image.getD ""), attr "class" "grid-image",
        attrOf "alt" r.label] :=
      .of_head rfl (by decide) (.attrOf _ rfl (by decide) (.attr rfl rfl (by decide)
        (.attrOf _ rfl (by decide) .nil)))
    refine .line (.single (.holding (.cls rfl (by decide) rfl (by decide)) (.lines ?_)))
    exact .append (.given _ (.single (.lone himage _)))
      (.given _ (.single (.holding (.divCls rfl (by decide)) (.single (.text _)))))

theorem inner_gridBody (v : GridView) : InnerAll (gridBody v) := by
  have htable : OtherTag "table" [⟨"class", [.fixed "grid-table grid-", .value v.layout]⟩] := by
    refine .of_head rfl (by decide) (.cons (.of_chars rfl (by decide)) (fun part hpart => ?_) .nil)
    simp only [List.mem_cons, List.not_mem_nil, or_false] at hpart
    obtain rfl | rfl := hpart
    · exact (.of_chars rfl (by decide) : Plain "grid-table grid-")
    · exact .escape v.layout
  refine .block htable (.append ?_ ?_)
  · refine .block (.bare rfl (by decide)) (.block (.bare rfl (by decide)) ?_)
    exact .flatMap fun title _ => .leaf (.bare rfl (by decide))
  · refine .block (.bare rfl (by decide)) (.flatMap fun r _ => .block (.bare rfl (by decide)) ?_)
    exact .append (inner_gridLead v r) (.flatMap fun s _ => .cell rfl (by decide))

/-! ## Assessment -/

theorem inner_checkbox (checked : Bool) : (checkbox checked).Inner := by
  cases checked with
  | true => exact .holding (.cls rfl (by decide) rfl (by decide)) (.single (.charRef _))
  | false => exact .empty (.cls rfl (by decide) rfl (by decide))

theorem inner_questionLabel (depth : Nat) (label : String) :
    InnerAll (questionLabel depth label) := .leaf (.cls rfl (by decide) rfl (by decide))

theorem inner_tasksBody (v : TasksView) : InnerAll (tasksBody v) := by
  refine .given _ (.block (.cls rfl (by decide) rfl (by decide)) (.append ?_ ?_))
  · refine .block (.bare rfl (by decide)) (.block (.bare rfl (by decide)) (.append ?_ ?_))
    · exact .leaf (.cls rfl (by decide) rfl (by decide))
    · exact .leaf (.cls rfl (by decide) rfl (by decide))
  · refine .block (.bare rfl (by decide)) (.flatMap fun r _ => .block (otherTag_shaded r.shade) ?_)
    exact .append (.cell rfl (by decide)) (.trusted (.cls rfl (by decide) rfl (by decide)) _)

theorem inner_submissionItem (i : SubmissionItem) : InnerAll (submissionItem i) := by
  have hitem : OtherTag "div" (cls (if i.spanFull then "assessment-submission-item span-full"
      else "assessment-submission-item")) := by
    cases i.spanFull with
    | true => exact .divCls rfl (by decide)
    | false => exact .divCls rfl (by decide)
  refine .block hitem (.append (.append (.line (.single (inner_checkbox _))) ?_) (.given _ ?_))
  · exact inner_questionLabel 3 i.label
  · exact .leaf (.cls rfl (by decide) rfl (by decide))

theorem inner_submissionBody (v : SubmissionView) : InnerAll (submissionBody v) := by
  refine .block (.divCls rfl (by decide)) (.append ?_ ?_)
  · exact .block (.divCls rfl (by decide)) (.flatMap fun i _ => inner_submissionItem i)
  · refine .block (.divCls rfl (by decide)) (.append (.line (.single ?_)) ?_)
    · exact .empty (.divCls rfl (by decide))
    · exact .leaf (.divCls rfl (by decide))

/-! ## Adjustment -/

theorem inner_signatureImage (address : String) : (signatureImage address).Inner :=
  .lone (.of_head rfl (by decide) (.attrOf _ rfl (by decide) (.attr rfl rfl (by decide)
    (.attr rfl rfl (by decide) .nil)))) _

theorem inner_maybeSignature (address : Option String) : InnerAll (maybeSignature address) := by
  cases address with
  | none => exact .nil
  | some s => exact .given _ (.single (inner_signatureImage s))

theorem inner_matrix (m : AppendixMatrix) : InnerAll (matrix m) := by
  have hcell (lines : List String) : InnerAll (matrixCell lines) := by
    rw [matrixCell]
    split
    · refine .block (.bare rfl (by decide)) (.block (.bare rfl (by decide)) ?_)
      exact .flatMap fun s _ => .leaf (.bare rfl (by decide))
    · refine .line (.single (.holding (.bare rfl (by decide)) (.lines ?_)))
      exact List.forall_mem_map.mpr fun s _ => .text s
  refine .block (.cls rfl (by decide) rfl (by decide)) (.append ?_ ?_)
  · refine .block (.bare rfl (by decide)) (.block (.bare rfl (by decide)) ?_)
    exact .flatMap fun title _ => .leaf (.bare rfl (by decide))
  · refine .block (.bare rfl (by decide)) (.flatMap fun row _ => ?_)
    exact .block (.bare rfl (by decide)) (.flatMap fun lines _ => hcell lines)

theorem inner_answerBox (label : String) {boxClass : String} (value : String) {n : List Char}
    (hbox : boxClass = .ofList n) (hn : '<' ∉ n ∧ ∀ m ∈ containerChars, Text.Differ m n) :
    InnerAll (answerBox label boxClass value) :=
  .block (.divCls rfl (by decide)) (.append (.leaf (.divCls rfl (by decide)))
    (.leaf (.divCls hbox hn)))

theorem inner_radioWord (filled : Bool) (word : String) : InnerAll (radioWord filled word) :=
  .line (.single (.holding (.cls rfl (by decide) rfl (by decide))
    (.cons (inner_radio filled) (.single (.text _)))))

theorem inner_adjustmentBlock (v : AdjustmentView) : InnerAll (adjustmentBlock v) := by
  refine .append (.append ?_ ?_) (.block (.divCls rfl (by decide)) (.append ?_ ?_))
  · exact .given _ (.trusted (.cls rfl (by decide) rfl (by decide)) _)
  · exact .given _ (.trusted (.cls rfl (by decide) rfl (by decide)) _)
  · refine .line (.single (.holding (.divCls rfl (by decide)) ?_))
    exact .cons (.charRef _) (.cons (.text _) (.single (.text _)))
  · refine .block (.divCls rfl (by decide)) (.append (.append (.append ?_ ?_) ?_) ?_)
    · refine .block (.divCls rfl (by decide)) (.append (.append ?_ ?_) ?_)
      · exact .leaf (.divCls rfl (by decide))
      · exact inner_radioWord v.appliedYes "Yes"
      · exact inner_radioWord v.appliedNo "No"
    · exact inner_answerBox _ _ rfl (by decide)
    · exact inner_answerBox _ _ rfl (by decide)
    · refine .block (.divCls rfl (by decide)) (.append (.append (.append ?_ ?_) ?_) ?_)
      · exact .leaf (.bare rfl (by decide))
      · refine .line (.single (.holding (.cls rfl (by decide) rfl (by decide)) (.lines ?_)))
        exact inner_maybeSignature v.signatureImage
      · exact .leaf (.bare rfl (by decide))
      · exact .leaf (.cls rfl (by decide) rfl (by decide))

theorem inner_appendixBar (s : String) : InnerAll (appendixBar s) :=
  .leaf (.divCls rfl (by decide))

theorem inner_adjustmentAppendix (v : AdjustmentView) : InnerAll (adjustmentAppendix v) := by
  have hrow {label : String} {value : List Html} (hvalue : InnerAll value) :
      InnerAll (block 3 "tr" [] (cell 4 "decl-label" label ++ value)) :=
    .block (.bare rfl (by decide)) (.append (.cell rfl (by decide)) hvalue)
  have hmatrices (ms : List AppendixMatrix) : InnerAll (ms.flatMap indentedMatrix) :=
    .flatMap fun m _ => .line (inner_matrix m)
  refine .block (.divCls rfl (by decide)) (.append (.append (.append (.append (.append (.append
    (.append (.append (.append (.leaf ?_) (inner_appendixBar _)) (.leaf ?_)) (inner_appendixBar _))
    ?_) (hmatrices _)) (.given _ (.append (inner_appendixBar _) (hmatrices _))))
    (inner_appendixBar _)) (.leaf ?_)) (.block ?_ (.block (.bare rfl (by decide)) ?_)))
  · exact .divCls rfl (by decide)
  · exact .divCls rfl (by decide)
  · refine .block (.cls rfl (by decide) rfl (by decide)) ?_
    exact .flatMap fun s _ => .leaf (.bare rfl (by decide))
  · exact .divCls rfl (by decide)
  · exact .cls rfl (by decide) rfl (by decide)
  · refine .append (.append (.append (hrow ?_) (hrow ?_)) (hrow ?_)) (hrow ?_)
    · exact .cell rfl (by decide)
    · refine .line (.single (.holding (.cls rfl (by decide) rfl (by decide)) (.single ?_)))
      exact .holding (.bare rfl (by decide)) (.single (.text _))
    · refine .line (.single (.holding (.cls rfl (by decide) rfl (by decide)) (.lines ?_)))
      exact inner_maybeSignature v.signatureImage
    · exact .cell rfl (by decide)

theorem inner_adjustmentBody (v : AdjustmentView) : InnerAll (adjustmentBody v) := by
  rw [adjustmentBody]
  split
  · exact inner_adjustmentAppendix v
  · exact inner_adjustmentBlock v

/-! ## Declarations -/

theorem inner_declarationRow (depth : Nat) (label : String) {value : List Html}
    (hvalue : InnerAll value) : InnerAll (declarationRow depth label value) :=
  .block (.bare rfl (by decide)) (.append (.cell rfl (by decide)) hvalue)

theorem inner_signatureBlock (v : SignatureView) : InnerAll (signatureBlock v) := by
  have hname : InnerAll (leaf 5 "span" (cls "decl-sig-value") v.substitute) :=
    .leaf (.cls rfl (by decide) rfl (by decide))
  refine .block (.divCls rfl (by decide)) (.append (.leaf (.divCls rfl (by decide))) ?_)
  refine .block (.cls rfl (by decide) rfl (by decide)) (.block (.bare rfl (by decide)) ?_)
  refine .append (.append (.given _ ?_) ?_) (.given _ ?_)
  · exact inner_declarationRow 3 _ (.cell rfl (by decide))
  · refine inner_declarationRow 3 _ (.block (.cls rfl (by decide) rfl (by decide)) ?_)
    cases v.image with
    | none => exact hname
    | some address =>
        dsimp only
        split
        · exact hname
        · exact .line (.single (inner_signatureImage address))
  · exact inner_declarationRow 3 _ (.cell rfl (by decide))

theorem inner_tickLine (label : String) (checked : Bool) : InnerAll (tickLine label checked) :=
  .block (.divCls rfl (by decide))
    (.append (.line (.single (inner_checkbox checked))) (inner_questionLabel 2 label))

theorem inner_genericItem (i : GenericItem) : InnerAll (genericItem i) := by
  cases i with
  | signature label view => exact .line (inner_signatureBlock view)
  | checkbox label checked => exact inner_tickLine label checked
  | text label value =>
      exact .block (.divCls rfl (by decide))
        (.append (.leaf (.divCls rfl (by decide))) (.leaf (.divCls rfl (by decide))))

theorem inner_officeTable (spanner : String) (rows : List OfficeRow) :
    InnerAll (officeTable spanner rows) := by
  have htitle : OtherTag "td" [attr "colspan" "2", attr "class" "decl-other-header"] :=
    .of_head rfl (by decide) (.attr rfl rfl (by decide) (.attr rfl rfl (by decide) .nil))
  refine .block (.cls rfl (by decide) rfl (by decide)) (.block (.bare rfl (by decide)) ?_)
  refine .append (.block (.bare rfl (by decide)) (.leaf htitle)) (.flatMap fun r _ => ?_)
  exact .block (.bare rfl (by decide)) (.append (.cell rfl (by decide)) (.cell rfl (by decide)))

theorem inner_declarationBody (v : DeclarationView) : InnerAll (declarationBody v) := by
  cases v with
  | checklist items =>
      exact .block (.divCls rfl (by decide)) (.flatMap fun i _ => inner_tickLine i.label i.checked)
  | signatures blocks =>
      exact .block (.divCls rfl (by decide)) (.flatMap fun b _ => .line (inner_signatureBlock b))
  | office spanner rows => exact inner_officeTable spanner rows
  | generic description items =>
      refine .append ?_ (.block (.divCls rfl (by decide)) (.flatMap fun i _ => inner_genericItem i))
      cases description with
      | none => exact .nil
      | some s => exact .given _ (.trusted (.cls rfl (by decide) rfl (by decide)) s)

/-! ## Sections -/

theorem inner_heading (h : Heading) : InnerAll (heading h) := by
  have htitle : InnerAll (if h.bar then leaf 0 "div" (cls "decl-heading-bar") h.text
      else leaf 0 "h3" [] h.text) := by
    cases h.bar with
    | true => exact .leaf (.divCls rfl (by decide))
    | false => exact .leaf (.bare rfl (by decide))
  refine .append htitle ?_
  cases h.description with
  | none => exact .nil
  | some s => exact .given _ (.trusted (.cls rfl (by decide) rfl (by decide)) s)

theorem inner_maybeParagraph (depth : Nat) (s : String) : InnerAll (maybeParagraph depth s) :=
  .given _ (.leaf (.bare rfl (by decide)))

theorem inner_maybeBullets (depth : Nat) (items : List String) :
    InnerAll (maybeBullets depth items) :=
  .given _ (.block (.bare rfl (by decide)) (.flatMap fun s _ => .leaf (.bare rfl (by decide))))

theorem inner_learnerIntro (e : EvaluationProfile) : InnerAll (learnerIntro e) := by
  refine .block (.divCls rfl (by decide)) (.append (.append (.append ?_ ?_) ?_) ?_)
  · exact .leaf (.divCls rfl (by decide))
  · exact inner_maybeParagraph 1 e.intro
  · exact inner_maybeBullets 1 e.bullets
  · exact inner_maybeParagraph 1 e.closing

end FormPress.Html

namespace FormPress

theorem SectionView.inner_body (v : SectionView) : Html.InnerAll v.body := by
  cases v with
  | details v => exact Html.inner_detailBody v
  | participant v => exact Html.inner_participantBody v
  | likert v => exact Html.inner_likertBody v
  | grid v => exact Html.inner_gridBody v
  | tasks v => exact Html.inner_tasksBody v
  | submission v => exact Html.inner_submissionBody v
  | adjustment v => exact Html.inner_adjustmentBody v
  | declaration v => exact Html.inner_declarationBody v

/-- A section opens no page container of its own. -/
theorem SectionFragment.inner_content (n : SectionNode) (answers : AnswerBook) (p : Profile)
    (number : Option Int) (c : SectionContext) :
    (SectionFragment.ofSection n answers p number c).content.Inner := by
  have htag : OtherTag "div" [⟨"class", [.fixed "section section-", .value n.header.mode.word]⟩,
      Html.attrOf "data-section-id" (toString n.header.id)] := by
    refine .div rfl (by decide) (fun part hpart => ?_) (.attrOf _ rfl (by decide) .nil)
    rw [List.mem_singleton.mp hpart]
    exact .escape n.header.mode.word
  have hheading : Html.InnerAll (((Heading.ofSection n.header number).map Html.heading).getD []) := by
    cases Heading.ofSection n.header number with
    | none => exact .nil
    | some h => exact Html.inner_heading h
  refine .holding htag (.append (.append (.cons (.text _) ?_) hheading) ?_)
  · exact .given _ (Html.inner_learnerIntro p.evaluation)
  · exact SectionView.inner_body _

end FormPress
