/-
  FormPress.Proofs.Section.Breaks

  Page breaks in a section.  A page break without rows and without a code asks for
  nothing, and a section reads the same without any of them
  (`SectionNode.withoutBreaks`) but for three places: in front of a grid a page break
  puts its own settings in place of those of the grid, right behind the choice of a
  submission it parts the choice from its description, and in a table for office use
  it is a row like any other (`SectionNode.BreaksTell`,
  `SectionNode.breaks_unprinted_unless_placed`).
-/
import FormPress.Proofs.Markup.Size
import FormPress.Section.Fragment
import Mathlib.Data.List.Basic
import Mathlib.Tactic.ByContra

namespace FormPress

/-! ## Bare page breaks -/

/-- Whether a question is a page break that has neither rows nor a code. -/
def QuestionNode.isBareBreak (q : QuestionNode) : Bool :=
  q.question.kind == .pageBreak && q.rows.isEmpty && q.question.code.getD "" == ""

namespace QuestionNode

variable {q : QuestionNode}

/-- What has to be checked of a bare page break. -/
theorem isBareBreak_iff :
    q.isBareBreak = true ↔
      q.question.kind = .pageBreak ∧ q.rows = [] ∧ q.question.code.getD "" = "" := by
  simp [isBareBreak, and_assoc]

/-- A question of another kind is no page break. -/
theorem not_bareBreak_of_kind {k : QuestionKind} (hk : k ≠ .pageBreak)
    (h : (q.question.kind == k) = true) : q.isBareBreak = false := by
  have hkind : q.question.kind = k := eq_of_beq h
  simp [isBareBreak, hkind, hk]

/-- A question with a code is no bare page break. -/
theorem not_bareBreak_of_code {code : String} (hcode : code ≠ "")
    (h : (q.question.code == some code) = true) : q.isBareBreak = false := by
  have hq : q.question.code = some code := eq_of_beq h
  simp [isBareBreak, hq, hcode]

end QuestionNode

namespace SectionNode

/-- The section without the chosen ones of its bare page breaks. -/
def withoutBreaks (chosen : QuestionNode → Bool) (n : SectionNode) : SectionNode :=
  { n with questions := n.questions.filter fun q => !(q.isBareBreak && chosen q) }

section

variable (chosen : QuestionNode → Bool) (n : SectionNode)

@[simp] theorem withoutBreaks_header : (n.withoutBreaks chosen).header = n.header := rfl

/-- Without bare page breaks a section stays as it is. -/
theorem withoutBreaks_of_none (h : ∀ q ∈ n.questions, (q.isBareBreak && chosen q) = false) :
    n.withoutBreaks chosen = n := by
  have hquestions : n.questions.filter (fun q => !(q.isBareBreak && chosen q)) = n.questions :=
    List.filter_eq_self.mpr fun q hq => by rw [h q hq, Bool.not_false]
  rw [withoutBreaks, hquestions]

/-- The questions that pass a test which no bare page break passes. -/
theorem filter_withoutBreaks {p : QuestionNode → Bool}
    (h : ∀ q, p q = true → q.isBareBreak = false) :
    (n.withoutBreaks chosen).questions.filter p = n.questions.filter p := by
  rw [withoutBreaks, List.filter_filter]
  refine List.filter_congr fun q _ => ?_
  cases hp : p q with
  | false => rfl
  | true => rw [h q hp, Bool.false_and, Bool.not_false, Bool.and_self]

/-- The first question that passes a test which no bare page break passes. -/
theorem find?_withoutBreaks {p : QuestionNode → Bool}
    (h : ∀ q, p q = true → q.isBareBreak = false) :
    (n.withoutBreaks chosen).questions.find? p = n.questions.find? p := by
  rw [← List.head?_filter, filter_withoutBreaks chosen n h, List.head?_filter]

/-- What the questions are collected to, one after the other, if bare page breaks give nothing. -/
theorem flatMap_withoutBreaks {α : Type} {f : QuestionNode → List α}
    (h : ∀ q, q.isBareBreak = true → f q = []) :
    (n.withoutBreaks chosen).questions.flatMap f = n.questions.flatMap f := by
  show (n.questions.filter _).flatMap f = _
  induction n.questions with
  | nil => rfl
  | cons q rest ih =>
      rw [List.flatMap_cons, ← ih]
      cases hdrop : q.isBareBreak && chosen q with
      | true =>
          rw [List.filter_cons_of_neg (by simp only [hdrop]; decide),
            h q (Bool.and_eq_true_iff.mp hdrop).1, List.nil_append]
      | false => rw [List.filter_cons_of_pos (by simp only [hdrop]; rfl), List.flatMap_cons]

/-- What the questions give one by one, if bare page breaks give nothing. -/
theorem filterMap_withoutBreaks {α : Type} {f : QuestionNode → Option α}
    (h : ∀ q, q.isBareBreak = true → f q = none) :
    (n.withoutBreaks chosen).questions.filterMap f = n.questions.filterMap f := by
  rw [withoutBreaks, List.filterMap_filter]
  refine List.filterMap_congr fun q _ => ?_
  split
  · rfl
  next hdrop =>
    have hbreak : (q.isBareBreak && chosen q) = true := by simpa using hdrop
    exact (h q (Bool.and_eq_true_iff.mp hbreak).1).symm

/-- The first question of a kind is found without page breaks too. -/
theorem firstOfKind_withoutBreaks {k : QuestionKind} (hk : k ≠ .pageBreak) :
    (n.withoutBreaks chosen).firstOfKind k = n.firstOfKind k :=
  find?_withoutBreaks chosen n fun _ => QuestionNode.not_bareBreak_of_kind hk

/-- A question is found by its code without page breaks too. -/
theorem findByCode_withoutBreaks {code : String} (hcode : code ≠ "") :
    (n.withoutBreaks chosen).findByCode code = n.findByCode code :=
  find?_withoutBreaks chosen n fun _ => QuestionNode.not_bareBreak_of_code hcode

end

/-! ## Places where a page break tells -/

/-- A page break tells in three places. -/
inductive BreaksTell (chosen : QuestionNode → Bool) (n : SectionNode) : Prop
  /-- A grid has other settings without it. -/
  | settings (hmode : n.header.mode = .gridTable)
      (h : GridView.settingsOf (n.withoutBreaks chosen) ≠ GridView.settingsOf n)
  /-- A submission describes the other way by another question without it. -/
  | description (hmode : n.header.mode = .assessmentSubmission)
      (h : SubmissionView.otherQuestion (n.withoutBreaks chosen) ≠ SubmissionView.otherQuestion n)
  /-- A table for office use has one row less without it. -/
  | row (hmode : n.header.mode = .declarations) (hkind : n.header.effectiveKind = .officeUse)
      (h : ∃ q ∈ n.questions, q.isBareBreak = true ∧ chosen q = true)

variable {chosen : QuestionNode → Bool} {n : SectionNode}

/-- The settings of a grid are the same unless a page break comes first. -/
theorem settingsOf_withoutBreaks
    (h : GridView.settingsOf (n.withoutBreaks chosen) ≠ GridView.settingsOf n) :
    ∃ q rest, n.questions = q :: rest ∧ q.isBareBreak = true := by
  cases hquestions : n.questions with
  | nil => exact absurd (by simp [GridView.settingsOf, withoutBreaks, hquestions]) h
  | cons q rest =>
      refine ⟨q, rest, rfl, ?_⟩
      by_contra hq
      exact h (by simp [GridView.settingsOf, withoutBreaks, hquestions, hq])

/-- What comes right behind the choice is found without page breaks, unless it is one. -/
theorem afterChoice_withoutBreaks (questions : List QuestionNode)
    (h : ∀ q, SubmissionView.afterChoice questions = some q → q.isBareBreak = false) :
    SubmissionView.afterChoice (questions.filter fun q => !(q.isBareBreak && chosen q)) =
      SubmissionView.afterChoice questions := by
  induction questions with
  | nil => rfl
  | cons q rest ih =>
      rw [SubmissionView.afterChoice] at h
      by_cases hq : (q.question.kind == .multiChoice) = true
      · rw [if_pos hq] at h
        have hkeep := QuestionNode.not_bareBreak_of_kind (by decide) hq
        rw [List.filter_cons_of_pos (by simp [hkeep]), SubmissionView.afterChoice,
          SubmissionView.afterChoice, if_pos hq, if_pos hq]
        -- The next question is no page break, so it stays the next one.
        cases rest with
        | nil => rfl
        | cons r rest => rw [List.filter_cons_of_pos (by simp [h r rfl]), List.head?, List.head?]
      · -- In front of the choice a page break may go: only what comes behind the choice counts.
        rw [if_neg hq] at h
        rw [SubmissionView.afterChoice, if_neg hq, ← ih h]
        cases hdrop : q.isBareBreak && chosen q with
        | true => rw [List.filter_cons_of_neg (by simp only [hdrop]; decide)]
        | false =>
            rw [List.filter_cons_of_pos (by simp only [hdrop]; rfl), SubmissionView.afterChoice,
              if_neg hq]

/-- The description of the other way is the same unless a page break comes right behind the
    choice. -/
theorem otherQuestion_withoutBreaks
    (h : SubmissionView.otherQuestion (n.withoutBreaks chosen) ≠ SubmissionView.otherQuestion n) :
    ∃ q, SubmissionView.afterChoice n.questions = some q ∧ q.isBareBreak = true := by
  by_contra hnone
  refine h ?_
  have hafter : SubmissionView.afterChoice (n.withoutBreaks chosen).questions =
      SubmissionView.afterChoice n.questions :=
    afterChoice_withoutBreaks n.questions fun q hq => by
      by_contra hbreak
      exact hnone ⟨q, hq, by simpa using hbreak⟩
  rw [SubmissionView.otherQuestion, SubmissionView.otherQuestion, hafter,
    firstOfKind_withoutBreaks chosen n (by decide)]

end SectionNode

/-! ## Layouts -/

section

variable (chosen : QuestionNode → Bool) (n : SectionNode) (answers : AnswerBook) (p : Profile)
  (c : SectionContext)

theorem DetailView.ofSection_withoutBreaks :
    DetailView.ofSection (n.withoutBreaks chosen) answers p = .ofSection n answers p := by
  have hinstructions : instructionTexts (n.withoutBreaks chosen).questions =
      instructionTexts n.questions :=
    n.filterMap_withoutBreaks chosen fun q hq => by
      simp [(QuestionNode.isBareBreak_iff.mp hq).1]
  have htabled : tabled (n.withoutBreaks chosen).questions = tabled n.questions :=
    n.filter_withoutBreaks chosen fun q hq => by
      by_contra hbreak
      have hkind := (QuestionNode.isBareBreak_iff.mp (by simpa using hbreak)).1
      simp [hkind, QuestionKind.skippedInTables] at hq
  rw [ofSection, ofSection, hinstructions, htabled]

theorem ParticipantView.ofSection_withoutBreaks :
    ParticipantView.ofSection (n.withoutBreaks chosen) answers = .ofSection n answers := by
  rw [ofSection, ofSection, n.filter_withoutBreaks chosen fun _ =>
    QuestionNode.not_bareBreak_of_kind (by decide)]

theorem LikertView.ofSection_withoutBreaks :
    LikertView.ofSection (n.withoutBreaks chosen) answers p c = .ofSection n answers p c := by
  have hrows : ratedRows (n.withoutBreaks chosen).questions = ratedRows n.questions := by
    rw [ratedRows, ratedRows, n.filter_withoutBreaks chosen fun _ =>
      QuestionNode.not_bareBreak_of_kind (by decide)]
  have hcomments : commentsOf (n.withoutBreaks chosen).questions answers =
      commentsOf n.questions answers := by
    rw [commentsOf, commentsOf, n.find?_withoutBreaks chosen fun _ hq =>
      QuestionNode.not_bareBreak_of_kind (by decide) (Bool.and_eq_true_iff.mp hq).1]
  rw [ofSection, ofSection, hrows, hcomments, SectionNode.withoutBreaks_header]

/-- A grid is the same without page breaks if its settings are. -/
theorem GridView.ofSection_withoutBreaks
    (h : settingsOf (n.withoutBreaks chosen) = settingsOf n) :
    GridView.ofSection (n.withoutBreaks chosen) answers = .ofSection n answers := by
  rw [ofSection, ofSection, h, n.flatMap_withoutBreaks chosen fun q hq => by
    rw [(QuestionNode.isBareBreak_iff.mp hq).2.1, List.map_nil]]

theorem TasksView.ofSection_withoutBreaks :
    TasksView.ofSection (n.withoutBreaks chosen) p = .ofSection n p := by
  rw [ofSection, ofSection, n.find?_withoutBreaks chosen fun _ hq =>
    QuestionNode.not_bareBreak_of_kind (by decide) (Bool.and_eq_true_iff.mp hq).1]

/-- A submission is the same without page breaks if it describes the other way by the same question.
    -/
theorem SubmissionView.ofSection_withoutBreaks
    (h : otherQuestion (n.withoutBreaks chosen) = otherQuestion n) :
    SubmissionView.ofSection (n.withoutBreaks chosen) answers p = .ofSection n answers p := by
  rw [ofSection, ofSection, h, n.firstOfKind_withoutBreaks chosen (by decide)]

theorem AdjustmentView.ofSection_withoutBreaks :
    AdjustmentView.ofSection (n.withoutBreaks chosen) answers p c = .ofSection n answers p c := by
  rw [ofSection, ofSection, n.findByCode_withoutBreaks chosen (by decide),
    n.findByCode_withoutBreaks chosen (by decide), n.firstOfKind_withoutBreaks chosen (by decide),
    n.firstOfKind_withoutBreaks chosen (by decide), SectionNode.withoutBreaks_header]

theorem DeclarationView.genericItem?_of_break {q : QuestionNode} (labels : DeclarationProfile)
    (h : q.isBareBreak = true) : genericItem? answers labels q = none := by
  simp [genericItem?, (QuestionNode.isBareBreak_iff.mp h).1]

/-- All declarations but those for office use pass page breaks over. -/
theorem DeclarationView.ofSection_withoutBreaks (h : n.header.effectiveKind ≠ .officeUse) :
    DeclarationView.ofSection (n.withoutBreaks chosen) answers p = .ofSection n answers p := by
  have hchecklist : checklistOf (n.withoutBreaks chosen).questions answers =
      checklistOf n.questions answers := by
    rw [checklistOf, checklistOf, n.filter_withoutBreaks chosen fun q hq => by
      by_contra hbreak
      have hkind := (QuestionNode.isBareBreak_iff.mp (by simpa using hbreak)).1
      simp [hkind, QuestionKind.isChoice] at hq]
  have hsignatures : signaturesOf (n.withoutBreaks chosen).questions answers p.declarations =
      signaturesOf n.questions answers p.declarations := by
    rw [signaturesOf, signaturesOf, n.filter_withoutBreaks chosen fun _ =>
      QuestionNode.not_bareBreak_of_kind (by decide)]
  have hgeneric := n.filterMap_withoutBreaks chosen fun q =>
    DeclarationView.genericItem?_of_break answers p.declarations (q := q)
  rw [ofSection, ofSection, SectionNode.withoutBreaks_header]
  cases hkind : n.header.effectiveKind with
  | finalDeclaration => simp only [hchecklist]
  | signature => simp only [hsignatures]
  | officeUse => exact absurd hkind h
  | generic => simp only [hgeneric]

/-- A section shows the same without page breaks unless they tell. -/
theorem SectionView.ofSection_withoutBreaks
    (h : isParticipantSection n p c = true ∨ ¬ n.BreaksTell chosen) :
    SectionView.ofSection (n.withoutBreaks chosen) answers p c = .ofSection n answers p c := by
  have hparticipant : isParticipantSection (n.withoutBreaks chosen) p c =
      isParticipantSection n p c := rfl
  rw [ofSection, ofSection, hparticipant, SectionNode.withoutBreaks_header]
  split
  · rw [ParticipantView.ofSection_withoutBreaks]
  next hother =>
    have hquiet : ¬ n.BreaksTell chosen := h.resolve_left hother
    cases hmode : n.header.mode with
    | normal => simp only [DetailView.ofSection_withoutBreaks]
    | likertTable => simp only [LikertView.ofSection_withoutBreaks]
    | gridTable =>
        have hsettings := not_not.mp fun hne => hquiet (.settings hmode hne)
        simp only [GridView.ofSection_withoutBreaks chosen n answers hsettings]
    | assessmentTasks => simp only [TasksView.ofSection_withoutBreaks]
    | assessmentSubmission =>
        have hdescription := not_not.mp fun hne => hquiet (.description hmode hne)
        simp only [SubmissionView.ofSection_withoutBreaks chosen n answers p hdescription]
    | reasonableAdjustment => simp only [AdjustmentView.ofSection_withoutBreaks]
    | declarations =>
        -- For office use there is no page break to leave out, or it would tell.
        by_cases hkind : n.header.effectiveKind = .officeUse
        · have hnone : n.withoutBreaks chosen = n :=
            n.withoutBreaks_of_none chosen fun q hq => by
              by_contra hbreak
              exact hquiet (.row hmode hkind ⟨q, hq, by simpa using hbreak⟩)
          rw [hnone]
        · simp only [DeclarationView.ofSection_withoutBreaks chosen n answers p hkind]

end

/-! ## Office use -/

namespace Html

/-- A row for office use. -/
def officeRow (r : OfficeRow) : List Html :=
  block 2 "tr" []
    (cell 3 "decl-label decl-office-label" r.label ++ cell 3 "decl-value" r.value)

/-- A table for office use is as long as without rows, and its rows. -/
theorem size_officeTable (spanner : String) (rows : List OfficeRow) :
    size (officeTable spanner rows) =
      size (officeTable spanner []) + size (rows.flatMap officeRow) := by
  have htable (rows : List OfficeRow) : size (officeTable spanner rows) =
      size (block 0 "table" (cls "decl-table decl-office-table") []) +
        (size (block 1 "tbody" [] []) +
          (size (block 2 "tr" []
            (leaf 3 "td" [attr "colspan" "2", attr "class" "decl-other-header"] spanner)) +
              size (rows.flatMap officeRow))) := by
    rw [officeTable, size_block, size_block 1, size_append]
    rfl
  rw [htable, htable, List.flatMap_nil, size_nil]
  omega

end Html

/-- A declaration for office use has a row for each of its questions. -/
theorem DeclarationView.declarationBody_office {n : SectionNode} (answers : AnswerBook) (p : Profile)
    (hkind : n.header.effectiveKind = .officeUse) :
    Html.declarationBody (.ofSection n answers p) = Html.officeTable p.declarations.officeSpanner
      (n.questions.map fun q => ⟨q.question.label, answers.text q.question.id⟩) := by
  simp only [ofSection, hkind, Html.declarationBody]

/-- A table for office use is shorter without its page breaks. -/
theorem DeclarationView.size_office_withoutBreaks (chosen : QuestionNode → Bool) (n : SectionNode)
    (answers : AnswerBook) (p : Profile) (hkind : n.header.effectiveKind = .officeUse)
    (hbreak : ∃ q ∈ n.questions, q.isBareBreak = true ∧ chosen q = true) :
    Html.size (Html.declarationBody (.ofSection (n.withoutBreaks chosen) answers p)) <
      Html.size (Html.declarationBody (.ofSection n answers p)) := by
  obtain ⟨q, hq, hbare, hchosen⟩ := hbreak
  -- The label and the answer may be empty, but the row itself takes some bytes.
  have hrows := Html.size_flatMap_filter_lt (fun q => !(q.isBareBreak && chosen q))
    (fun q => Html.officeRow ⟨q.question.label, answers.text q.question.id⟩) hq
    (by simp only [hbare, hchosen]; rfl) (Html.size_line_pos ..)
  rw [declarationBody_office answers p hkind,
    declarationBody_office (n := n.withoutBreaks chosen) answers p hkind, Html.size_officeTable,
    Html.size_officeTable _ (n.questions.map _), List.flatMap_map, List.flatMap_map]
  exact Nat.add_lt_add_left hrows _

namespace SectionFragment

/-- Two sections with one header that have the same markup have bodies of the same size. -/
theorem size_body_of_html {n m : SectionNode} {answers : AnswerBook} {p : Profile}
    {number : Option Int} {c : SectionContext} (hheader : n.header = m.header)
    (h : (ofSection n answers p number c).html = (ofSection m answers p number c).html) :
    Html.size (SectionView.ofSection n answers p c).body =
      Html.size (SectionView.ofSection m answers p c).body := by
  have hsize := congrArg String.utf8ByteSize h
  simp only [html, ofSection, hheader] at hsize
  rw [Html.size_element, Html.size_element _ _ (Html.eol :: _ ++ _ ++ _)] at hsize
  simpa [Html.size_cons] using hsize

/-- The fragment of a section is the same without page breaks unless they tell. -/
theorem ofSection_withoutBreaks {chosen : QuestionNode → Bool} {n : SectionNode}
    {answers : AnswerBook} {p : Profile} {c : SectionContext} (number : Option Int)
    (h : SectionView.isParticipantSection n p c = true ∨ ¬ n.BreaksTell chosen) :
    ofSection (n.withoutBreaks chosen) answers p number c = ofSection n answers p number c := by
  rw [ofSection, ofSection, SectionView.ofSection_withoutBreaks chosen n answers p c h,
    SectionNode.withoutBreaks_header]

/-- Each page break for office use is printed. -/
theorem html_office_ne {chosen : QuestionNode → Bool} {n : SectionNode} (answers : AnswerBook)
    {p : Profile} (number : Option Int) {c : SectionContext}
    (hother : SectionView.isParticipantSection n p c = false)
    (hmode : n.header.mode = .declarations) (hkind : n.header.effectiveKind = .officeUse)
    (hbreak : ∃ q ∈ n.questions, q.isBareBreak = true ∧ chosen q = true) :
    (ofSection (n.withoutBreaks chosen) answers p number c).html ≠
      (ofSection n answers p number c).html := by
  intro h
  -- With the same markup the tables would be equally long.
  have hsize := size_body_of_html (SectionNode.withoutBreaks_header chosen n) h
  have hother' : SectionView.isParticipantSection (n.withoutBreaks chosen) p c = false := hother
  simp only [SectionView.ofSection, hother, hother', SectionNode.withoutBreaks_header, hmode,
    SectionView.body, Bool.false_eq_true, if_false] at hsize
  exact absurd hsize
    (Nat.ne_of_lt (DeclarationView.size_office_withoutBreaks chosen n answers p hkind hbreak))

end SectionFragment

/-! ## Sections without page breaks -/

/-- What becomes of a section without the chosen ones of its bare page breaks.  It is the same unless
    they tell, and they tell in front of a grid, right behind the choice of a submission, and
    wherever they stand in a table for office use, which then is another one. -/
structure SectionNode.BreakRule (chosen : QuestionNode → Bool) (n : SectionNode)
    (answers : AnswerBook) (p : Profile) (number : Option Int) (c : SectionContext) : Prop where
  unprinted : SectionView.isParticipantSection n p c = true ∨ ¬ n.BreaksTell chosen →
    SectionFragment.ofSection (n.withoutBreaks chosen) answers p number c =
      SectionFragment.ofSection n answers p number c
  grid : n.header.mode = .gridTable → n.BreaksTell chosen →
    ∃ q rest, n.questions = q :: rest ∧ q.isBareBreak = true
  submission : n.header.mode = .assessmentSubmission → n.BreaksTell chosen →
    ∃ q, SubmissionView.afterChoice n.questions = some q ∧ q.isBareBreak = true
  office : n.header.mode = .declarations → n.BreaksTell chosen →
    SectionView.isParticipantSection n p c = false →
    (SectionFragment.ofSection (n.withoutBreaks chosen) answers p number c).html ≠
      (SectionFragment.ofSection n answers p number c).html
  elsewhere : n.BreaksTell chosen → n.header.mode = .gridTable ∨
    n.header.mode = .assessmentSubmission ∨
      n.header.mode = .declarations ∧ n.header.effectiveKind = .officeUse

/-- Page breaks are not printed but in front of a grid, right behind the choice of a submission and
    in a table for office use. -/
theorem SectionNode.breaks_unprinted_unless_placed (chosen : QuestionNode → Bool) (n : SectionNode)
    (answers : AnswerBook) (p : Profile) (number : Option Int) (c : SectionContext) :
    n.BreakRule chosen answers p number c where
  unprinted h := SectionFragment.ofSection_withoutBreaks number h
  grid hmode h := by
    cases h with
    | settings _ h => exact settingsOf_withoutBreaks h
    | description hother | row hother => cases hmode.symm.trans hother
  submission hmode h := by
    cases h with
    | description _ h => exact otherQuestion_withoutBreaks h
    | settings hother | row hother => cases hmode.symm.trans hother
  office hmode h hplain := by
    cases h with
    | row _ hkind hbreak =>
        exact SectionFragment.html_office_ne answers number hplain hmode hkind hbreak
    | settings hother | description hother => cases hmode.symm.trans hother
  elsewhere h := by
    cases h with
    | settings hmode => exact .inl hmode
    | description hmode => exact .inr (.inl hmode)
    | row hmode hkind => exact .inr (.inr ⟨hmode, hkind⟩)

/-- A page break without settings. -/
def bareBreak : QuestionNode := ⟨{ (default : Question) with id := 3, kind := .pageBreak }, [], []⟩

/-- A section in some mode with some questions. -/
def titledSection (title mode : String) (questions : List QuestionNode) : SectionNode :=
  { header := { (default : Section) with title := title, modeText := some mode }
    questions := questions }

/-- A grid of one column behind a page break. -/
def brokenGrid : List QuestionNode :=
  [bareBreak, ⟨{ (default : Question) with
    id := 5, kind := .gridTable, settings := [(.text "columns", .list [.text "Area"])] }, [], []⟩]

/-- A choice of another way only, with a short answer in front and one behind, which a page break
    parts from it. -/
def partedChoice : List QuestionNode :=
  [⟨{ (default : Question) with id := 1, kind := .shortText }, [], []⟩,
    ⟨{ (default : Question) with id := 2, kind := .multiChoice },
      [{ (default : QuestionOption) with value := "other" }], []⟩,
    bareBreak, ⟨{ (default : Question) with id := 4, kind := .shortText }, [], []⟩]

/-- In each of the three places a page break may change what is printed. -/
theorem bare_breaks_printed :
    let answers : AnswerBook := ⟨[(⟨1, none⟩, .text "before"), (⟨4, none⟩, .text "behind")], []⟩
    let html (n : SectionNode) : String := (SectionFragment.ofSection n answers {} none {}).html
    let differs (n : SectionNode) : Prop := html (n.withoutBreaks fun _ => true) ≠ html n
    differs (titledSection "Office use" "declarations" [bareBreak]) ∧
      differs (titledSection "Shapes" "grid_table" brokenGrid) ∧
      differs (titledSection "Submission" "assessment_submission" partedChoice) := by
  decide +kernel

end FormPress
