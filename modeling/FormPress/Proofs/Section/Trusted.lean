/-
  FormPress.Proofs.Section.Trusted

  Which texts are printed as trusted markup: the description of a section, the
  texts of instructions, and the help of the rows of rating tables and of tasks
  (`SectionNode.trustedFields`).  They are printed as they are, but for the
  description on reasonable adjustment, which is cut in two
  (`SectionFragment.trusted_printed`).  Whatever else a section shows is escaped
  (`SectionFragment.trusted_comesFrom`).
-/
import FormPress.Proofs.Markup.Inner
import FormPress.Proofs.Text.Search
import FormPress.Section.Fragment

namespace FormPress

/-! ## Fields -/

/-- The questions of a kind. -/
def SectionNode.ofKind (n : SectionNode) (k : QuestionKind) : List QuestionNode :=
  n.questions.filter fun q => q.question.kind == k

/-- The fields of a section that may be printed as trusted markup. -/
def SectionNode.trustedFields (n : SectionNode) : List String :=
  n.header.description.toList ++
    match n.header.mode with
    | .normal => (n.ofKind .instructions).filterMap (·.question.helpText)
    | .likertTable => ((n.ofKind .likert).flatMap (·.rows)).filterMap (·.help)
    | .assessmentTasks => ((n.ofKind .gridTable).flatMap (·.rows)).filterMap (·.help)
    | _ => []

/-- The texts of a section that may be printed as trusted markup, as they are printed: of a
    description on reasonable adjustment the two parts of it. -/
def SectionNode.richTexts (n : SectionNode) (p : Profile) : List String :=
  if n.header.mode = .reasonableAdjustment then
    let parts := splitDescription n.header.description p.adjustment.splitMarker
    [parts.1, parts.2]
  else n.trustedFields

/-- Without questions there is nothing but the description. -/
theorem SectionNode.trustedFields_of_nil {n : SectionNode} (h : n.questions = []) :
    n.trustedFields = n.header.description.toList := by
  rw [trustedFields]
  cases n.header.mode <;> simp [ofKind, h]

/-! ## Views -/

namespace Html

variable {t : String}

@[simp] theorem trustedAll_radio (filled : Bool) (hs : List Html) :
    trustedAll (radio filled :: hs) = trustedAll hs := rfl

@[simp] theorem trustedAll_checkbox (checked : Bool) (hs : List Html) :
    trustedAll (checkbox checked :: hs) = trustedAll hs := by
  cases checked <;> rfl

@[simp] theorem trustedAll_signatureImage (address : String) (hs : List Html) :
    trustedAll (signatureImage address :: hs) = trustedAll hs := rfl

/-- A plain table trusts its instructions. -/
theorem mem_trusted_detailBody {v : DetailView} (h : t ∈ trustedAll (detailBody v)) :
    t ∈ v.instructions := by
  simpa [detailBody, detailGroup, labelAndValue] using h

theorem not_mem_trusted_participantBody (v : ParticipantView) :
    t ∉ trustedAll (participantBody v) := by
  simp [participantBody, labelAndValue]

/-- The row of a rating table trusts its help. -/
theorem mem_trusted_likertRow {r : LikertRow} (h : t ∈ trustedAll (likertRow r)) :
    r.help = some t := by
  cases hhelp : r.help with
  | none => simp [likertRow, hhelp] at h
  | some s =>
      have ht : s ≠ "" ∧ t = s := by simpa [likertRow, hhelp] using h
      rw [ht.2]

/-- A rating table trusts what its rows do. -/
theorem mem_trusted_likertBody {v : LikertView} (h : t ∈ trustedAll (likertBody v)) :
    ∃ r ∈ v.rows, r.help = some t := by
  have hrow : ∃ r ∈ v.rows, t ∈ trustedAll (likertRow r) := by
    cases hcomments : v.comments <;> simpa [likertBody, hcomments] using h
  obtain ⟨r, hr, ht⟩ := hrow
  exact ⟨r, hr, mem_trusted_likertRow ht⟩

theorem not_mem_trusted_gridBody (v : GridView) : t ∉ trustedAll (gridBody v) := by
  have hlead (r : GridRow) : t ∉ trustedAll (gridLead v r) := by
    rw [gridLead]
    split <;> simp
  simp [gridBody, hlead]

/-- A table of tasks trusts their methods. -/
theorem mem_trusted_tasksBody {v : TasksView} (h : t ∈ trustedAll (tasksBody v)) :
    ∃ r ∈ v.rows, t = r.method := by
  have hrows : v.present ∧ ∃ r ∈ v.rows, t = r.method := by simpa [tasksBody] using h
  exact hrows.2

theorem not_mem_trusted_submissionBody (v : SubmissionView) :
    t ∉ trustedAll (submissionBody v) := by
  simp [submissionBody, submissionItem, questionLabel]

theorem not_mem_trusted_maybeSignature (address : Option String) :
    t ∉ trustedAll (maybeSignature address) := by
  cases address <;> simp [maybeSignature]

theorem not_mem_trusted_matrix (m : AppendixMatrix) : t ∉ trustedAll (matrix m) := by
  have hlines (lines : List String) : t ∉ trustedAll (lines.map text) := by
    induction lines with
    | nil => exact List.not_mem_nil
    | cons s lines ih => exact ih
  have hcell (lines : List String) : t ∉ trustedAll (matrixCell lines) := by
    rw [matrixCell]
    split <;> simp [hlines]
  simp [matrix, hcell]

/-- The form on reasonable adjustment trusts the two parts of the description. -/
theorem mem_trusted_adjustmentBody {v : AdjustmentView} (h : t ∈ trustedAll (adjustmentBody v)) :
    t = v.descriptionIntro ∨ t = v.descriptionNote := by
  rw [adjustmentBody] at h
  split at h
  · simp [adjustmentAppendix, appendixBar, indentedMatrix, not_mem_trusted_matrix,
      not_mem_trusted_maybeSignature] at h
  · have hparts : (v.descriptionIntro ≠ "" ∧ t = v.descriptionIntro) ∨
        (v.descriptionNote ≠ "" ∧ t = v.descriptionNote) := by
      simpa [adjustmentBlock, radioWord, answerBox, not_mem_trusted_maybeSignature] using h
    exact hparts.imp And.right And.right

theorem not_mem_trusted_signatureBlock (v : SignatureView) : t ∉ trustedAll (signatureBlock v) := by
  cases himage : v.image with
  | none => simp [signatureBlock, declarationRow, himage]
  | some address =>
      cases haddress : address == "" <;>
        simp [signatureBlock, declarationRow, himage, haddress]

/-- Only generic declarations trust something, which is their description. -/
theorem mem_trusted_declarationBody {v : DeclarationView}
    (h : t ∈ trustedAll (declarationBody v)) :
    ∃ items, v = .generic (some t) items := by
  have htick (label : String) (checked : Bool) : t ∉ trustedAll (tickLine label checked) := by
    simp [tickLine, questionLabel]
  have hitem (i : GenericItem) : t ∉ trustedAll (genericItem i) := by
    cases i with
    | signature label view =>
        simp [genericItem, indentedSignature, not_mem_trusted_signatureBlock]
    | checkbox label checked => exact htick label checked
    | text label value => simp [genericItem]
  cases v with
  | checklist items => simp [declarationBody, htick] at h
  | signatures blocks =>
      simp [declarationBody, indentedSignature, not_mem_trusted_signatureBlock] at h
  | office spanner rows => simp [declarationBody, officeTable] at h
  | generic description items =>
      cases description with
      | none => simp [declarationBody, hitem] at h
      | some s =>
          have ht : s ≠ "" ∧ t = s := by simpa [declarationBody, hitem] using h
          exact ⟨items, by rw [ht.2]⟩

/-- A heading trusts the description. -/
theorem mem_trusted_heading {g : Heading} (h : t ∈ trustedAll (heading g)) :
    g.description = some t := by
  have htitle : t ∉ trustedAll (if g.bar then leaf 0 "div" (cls "decl-heading-bar") g.text
      else leaf 0 "h3" [] g.text) := by
    cases g.bar <;> simp
  cases hdescription : g.description with
  | none => simp [heading, hdescription, htitle] at h
  | some s =>
      have ht : s ≠ "" ∧ t = s := by simpa [heading, hdescription, htitle] using h
      rw [ht.2]

theorem not_mem_trusted_learnerIntro (e : EvaluationProfile) :
    t ∉ trustedAll (learnerIntro e) := by
  simp [learnerIntro, maybeParagraph, maybeBullets]

end Html

/-! ## From fields to views -/

/-- A text is blank or stands in one of the fields. -/
def ComesFrom (fields : List String) (t : String) : Prop :=
  t = "" ∨ ∃ field ∈ fields, t.toList <:+: field.toList

theorem ComesFrom.of_mem {fields : List String} {t : String} (h : t ∈ fields) :
    ComesFrom fields t := .inr ⟨t, h, List.infix_rfl⟩

/-- A text that comes from some fields comes from more of them. -/
theorem ComesFrom.mono {xs ys : List String} {t : String} (h : ComesFrom xs t) (hsub : xs ⊆ ys) :
    ComesFrom ys t :=
  h.imp_right fun ⟨field, hfield, hstands⟩ => ⟨field, hsub hfield, hstands⟩

/-- A text in which a container begins comes from a field in which one begins. -/
theorem ComesFrom.noContainerIn {fields : List String} {t : String} (h : ComesFrom fields t)
    (hfields : ∀ field ∈ fields, Html.NoContainerIn field) : Html.NoContainerIn t := by
  intro name hname hstands
  -- Nothing begins in a blank text.
  obtain rfl | ⟨field, hfield, ht⟩ := h
  · rw [containerMark_toList] at hstands
    cases List.eq_nil_of_infix_nil hstands
  · exact hfields field hfield name hname (hstands.trans ht)

/-- Both parts of a description stand in it. -/
theorem splitDescription_comesFrom (description : Option String) (marker : String) :
    ComesFrom description.toList (splitDescription description marker).1 ∧
      ComesFrom description.toList (splitDescription description marker).2 := by
  cases description with
  | none => exact ⟨.inl rfl, .inl rfl⟩
  | some s =>
      rw [splitDescription]
      cases hsplit : Text.splitIgnoringCase marker.toList s.toList with
      | none =>
          refine ⟨.inr ⟨s, List.mem_singleton_self s, ?_⟩, .inl rfl⟩
          rw [Text.trim, String.toList_ofList]
          exact Text.infix_of_trimChars _
      | some parts =>
          obtain ⟨before, rest⟩ := parts
          -- Each part is trimmed from one side of the place where the description is cut.
          have hs := (Text.splitAtFirst_first hsplit).whole.symm
          constructor
          · refine .inr ⟨s, List.mem_singleton_self s, ?_⟩
            rw [String.toList_ofList, hs]
            exact (Text.infix_of_trimChars _).trans (List.prefix_append before rest).isInfix
          · refine .inr ⟨s, List.mem_singleton_self s, ?_⟩
            rw [String.toList_ofList, hs]
            exact (Text.infix_of_trimChars _).trans (List.suffix_append before rest).isInfix

/-- The help in a rating table is that of the rows it is made of. -/
theorem rowsFrom_help {answers : AnswerBook} {k number : Nat}
    {xs : List (QuestionNode × QuestionRow)} {r : LikertRow}
    (h : r ∈ LikertView.rowsFrom answers k number xs) : ∃ x ∈ xs, r.help = x.2.help := by
  induction xs generalizing number with
  | nil => cases h
  | cons x xs ih =>
      obtain ⟨q, row⟩ := x
      rw [LikertView.rowsFrom, List.mem_cons] at h
      obtain rfl | h := h
      · exact ⟨_, List.mem_cons_self .., rfl⟩
      · obtain ⟨x, hx, hhelp⟩ := ih h
        exact ⟨x, List.mem_cons_of_mem _ hx, hhelp⟩

/-- The method of a task is the help of the row it is made of. -/
theorem taskRowsFrom_method {i : Nat} {rows : List QuestionRow} {r : TaskRow}
    (h : r ∈ taskRowsFrom i rows) : ∃ row ∈ rows, r.method = row.help.getD "" := by
  induction rows generalizing i with
  | nil => cases h
  | cons row rows ih =>
      rw [taskRowsFrom, List.mem_cons] at h
      obtain rfl | h := h
      · exact ⟨row, List.mem_cons_self .., rfl⟩
      · obtain ⟨row', hrow, hmethod⟩ := ih h
        exact ⟨row', List.mem_cons_of_mem _ hrow, hmethod⟩

namespace SectionView

variable {n : SectionNode} {answers : AnswerBook} {p : Profile} {c : SectionContext} {t : String}

/-- The instructions of a plain table are texts of questions of this kind. -/
theorem details_comesFrom (h : t ∈ (DetailView.ofSection n answers p).instructions) :
    t ∈ (n.ofKind .instructions).filterMap (·.question.helpText) := by
  simp only [DetailView.ofSection, DetailView.instructionTexts, List.mem_filterMap] at h
  obtain ⟨q, hq, ht⟩ := h
  split at ht
  next hkind =>
    have hhelp := (Option.filter_eq_some_iff.mp ht).1
    exact List.mem_filterMap.mpr ⟨q, List.mem_filter.mpr ⟨hq, hkind⟩, hhelp⟩
  next => cases ht

/-- The help in a rating table is that of rows of rating questions. -/
theorem likert_comesFrom {r : LikertRow} (hr : r ∈ (LikertView.ofSection n answers p c).rows)
    (ht : r.help = some t) : t ∈ ((n.ofKind .likert).flatMap (·.rows)).filterMap (·.help) := by
  obtain ⟨⟨q, row⟩, hrow, hhelp⟩ := rowsFrom_help hr
  simp only [LikertView.ratedRows, List.mem_flatMap, List.mem_map] at hrow
  obtain ⟨q', hq, row', hrow', heq⟩ := hrow
  cases heq
  exact List.mem_filterMap.mpr ⟨row, List.mem_flatMap.mpr ⟨q, hq, hrow'⟩, hhelp ▸ ht⟩

/-- The method of a task is blank or the help of a row of a grid. -/
theorem tasks_comesFrom {r : TaskRow} (hr : r ∈ (TasksView.ofSection n p).rows) :
    r.method = "" ∨ r.method ∈ ((n.ofKind .gridTable).flatMap (·.rows)).filterMap (·.help) := by
  rw [TasksView.ofSection] at hr
  cases hgiven : n.questions.find? fun q => q.question.kind == .gridTable && !q.rows.isEmpty with
  | none => simp [hgiven] at hr
  | some q =>
      have hq := List.find?_some hgiven
      have hkind : q.question.kind == .gridTable := (Bool.and_eq_true_iff.mp hq).1
      simp only [hgiven, Option.map_some, Option.getD_some] at hr
      obtain ⟨row, hrow, hmethod⟩ := taskRowsFrom_method hr
      cases hhelp : row.help with
      | none => exact .inl (by rw [hmethod, hhelp]; rfl)
      | some s =>
          have hmem : q ∈ n.ofKind .gridTable :=
            List.mem_filter.mpr ⟨List.mem_of_find?_eq_some hgiven, hkind⟩
          rw [hmethod, hhelp]
          exact .inr (List.mem_filterMap.mpr ⟨row, List.mem_flatMap.mpr ⟨q, hmem, hrow⟩, hhelp⟩)

/-- A generic declaration has the description of its section. -/
theorem declaration_comesFrom {items : List GenericItem}
    (h : DeclarationView.ofSection n answers p = .generic (some t) items) :
    n.header.description = some t := by
  rw [DeclarationView.ofSection] at h
  split at h
  next => cases h
  next => cases h
  next => cases h
  next => exact (DeclarationView.generic.inj h).1

/-- What a layout prints as trusted markup is blank or one of the texts for it. -/
theorem trusted_printed (h : t ∈ Html.trustedAll (SectionView.ofSection n answers p c).body) :
    t = "" ∨ t ∈ n.richTexts p := by
  rw [ofSection] at h
  split at h
  · exact absurd h (Html.not_mem_trusted_participantBody _)
  · rw [SectionNode.richTexts, SectionNode.trustedFields]
    -- One case for each layout; four of the seven trust something.
    cases hmode : n.header.mode <;> simp only [hmode, reduceCtorEq, if_false, if_true] at h ⊢
    case normal =>
      exact .inr (List.mem_append_right _ (details_comesFrom (Html.mem_trusted_detailBody h)))
    case likertTable =>
      obtain ⟨r, hr, ht⟩ := Html.mem_trusted_likertBody h
      exact .inr (List.mem_append_right _ (likert_comesFrom hr ht))
    case assessmentTasks =>
      obtain ⟨r, hr, rfl⟩ := Html.mem_trusted_tasksBody h
      exact (tasks_comesFrom hr).imp_right (List.mem_append_right _)
    case gridTable => exact absurd h (Html.not_mem_trusted_gridBody _)
    case assessmentSubmission => exact absurd h (Html.not_mem_trusted_submissionBody _)
    case reasonableAdjustment =>
      obtain rfl | rfl := Html.mem_trusted_adjustmentBody h
      · exact .inr (List.mem_cons_self ..)
      · exact .inr (List.mem_cons_of_mem _ (List.mem_singleton_self _))
    case declarations =>
      obtain ⟨items, hview⟩ := Html.mem_trusted_declarationBody h
      rw [declaration_comesFrom hview]
      exact .inr (List.mem_append_left _ (List.mem_singleton_self t))

end SectionView

/-- What is printed as trusted comes from the fields for it. -/
theorem SectionNode.richTexts_comesFrom {n : SectionNode} {p : Profile} {t : String}
    (h : t ∈ n.richTexts p) : ComesFrom n.trustedFields t := by
  rw [richTexts] at h
  split at h
  · obtain ⟨hintro, hnote⟩ :=
      splitDescription_comesFrom n.header.description p.adjustment.splitMarker
    simp only [List.mem_cons, List.not_mem_nil, or_false] at h
    obtain rfl | rfl := h
    · exact hintro.mono (List.subset_append_left _ _)
    · exact hnote.mono (List.subset_append_left _ _)
  · exact .of_mem h

namespace SectionFragment

variable {n : SectionNode} {answers : AnswerBook} {p : Profile} {number : Option Int}
  {c : SectionContext} {t : String}

/-- The introduction for learners has no trusted texts; a heading that is shown and the layout may
    have some. -/
theorem mem_trusted (h : t ∈ (ofSection n answers p number c).content.trusted) :
    number.isSome ∧ n.header.description = some t ∨
      t ∈ Html.trustedAll (SectionView.ofSection n answers p c).body := by
  rw [ofSection, Html.trusted, Html.trustedAll_append, Html.trustedAll_append,
    List.mem_append, List.mem_append] at h
  obtain (h | h) | h := h
  · rw [Html.trustedAll_eol, Html.trustedAll_given] at h
    split at h
    · exact absurd h (Html.not_mem_trusted_learnerIntro _)
    · cases h
  · cases number with
    | none => cases h
    | some k => exact .inl ⟨rfl, Html.mem_trusted_heading h⟩
  · exact .inr h

/-- Whatever a section prints as trusted markup is blank or one of its texts for it; on reasonable
    adjustment a heading would print more than these. -/
theorem trusted_printed (hnumber : n.header.mode = .reasonableAdjustment → number = none)
    (h : t ∈ (ofSection n answers p number c).content.trusted) : t = "" ∨ t ∈ n.richTexts p := by
  obtain ⟨hshown, hdescription⟩ | h := mem_trusted h
  · have hmode : n.header.mode ≠ .reasonableAdjustment := by
      intro hmode
      rw [hnumber hmode] at hshown
      cases hshown
    rw [SectionNode.richTexts, if_neg hmode, SectionNode.trustedFields, hdescription]
    exact .inr (List.mem_append_left _ (List.mem_singleton_self t))
  · exact SectionView.trusted_printed h

/-- Whatever a section prints as trusted markup comes from its description or its help texts. -/
theorem trusted_comesFrom (h : t ∈ (ofSection n answers p number c).content.trusted) :
    ComesFrom n.trustedFields t := by
  obtain ⟨-, hdescription⟩ | h := mem_trusted h
  · refine .of_mem (List.mem_append_left _ ?_)
    rw [hdescription]
    exact List.mem_singleton_self t
  · obtain rfl | h := SectionView.trusted_printed h
    · exact .inl rfl
    · exact SectionNode.richTexts_comesFrom h

end SectionFragment

end FormPress
