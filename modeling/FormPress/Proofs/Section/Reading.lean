/-
  FormPress.Proofs.Section.Reading

  The answers in a written section can be read back.  Two books of answers give a
  plain table or a table for office use the same markup only if each question in
  it shows the same text under both (`SectionFragment.answers_of_html`): the
  cells are those of the same questions in the same order, and each of them is an
  element with nothing but the answer in it.
-/
import FormPress.Proofs.Markup.Reading
import FormPress.Proofs.Section.Details
import FormPress.Section.Fragment

namespace FormPress

/-! ## Tables -/

namespace Html

theorem labelAndValue_tells (depth : Nat) (label s t : String) :
    TellsAll (labelAndValue depth label s) (labelAndValue depth label t) (s = t) :=
  ((TellsAll.refl _).append (.cell depth "value-cell" s t)).imp And.right

/-- The rows of some questions under a title tell what each of them shows. -/
theorem detailGroup_tells (title : String) (xs : List (QuestionNode × Nat)) (a b : AnswerBook) :
    TellsAll (detailGroup ⟨title, xs.map (DetailView.rowAt a)⟩)
      (detailGroup ⟨title, xs.map (DetailView.rowAt b)⟩)
      (∀ x ∈ xs, (a.nodeValue x.1).shown = (b.nodeValue x.1).shown) := by
  rw [detailGroup, detailGroup, List.flatMap_map, List.flatMap_map]
  -- The label and the shade of a row are the same for both, so it tells its value.
  have hrows := TellsAll.flatMap xs fun x _ =>
    TellsAll.block 2 "tr" [attrOf "class" (DetailView.rowAt a x).shade.word]
      (labelAndValue_tells 3 x.1.question.label (a.nodeValue x.1).shown (b.nodeValue x.1).shown)
  exact ((TellsAll.refl _).append hrows).imp And.right

/-- A plain table tells what each question in it shows. -/
theorem detailBody_tells (n : SectionNode) (a b : AnswerBook) (p : Profile) :
    TellsAll (detailBody (.ofSection n a p)) (detailBody (.ofSection n b p))
      (∀ x ∈ DetailView.placed n.questions, (a.nodeValue x.1).shown = (b.nodeValue x.1).shown) := by
  -- Which titles there are, and which questions stand under them, does not depend on the answers.
  have hgroups := TellsAll.flatMap (DetailView.titles p n.questions).eraseDups fun t _ =>
    detailGroup_tells t ((DetailView.placed n.questions).filter (p.titleOf ·.1 = t)) a b
  have htable := TellsAll.given (!(DetailView.titles p n.questions).eraseDups.isEmpty) fun _ =>
    TellsAll.block 0 "table" (cls "section-table") (TellsAll.block 1 "tbody" [] hgroups)
  have hbody (answers : AnswerBook) : detailBody (.ofSection n answers p) =
      ((DetailView.instructionTexts n.questions).flatMap fun s =>
        line 0 [.element "div" (cls "instruction-block") [rich s]]) ++
      given (!(DetailView.titles p n.questions).eraseDups.isEmpty)
        (block 0 "table" (cls "section-table") (block 1 "tbody" []
          ((DetailView.titles p n.questions).eraseDups.flatMap fun t =>
            detailGroup ⟨t, ((DetailView.placed n.questions).filter (p.titleOf ·.1 = t)).map
              (DetailView.rowAt answers)⟩))) := by
    rw [detailBody, DetailView.groups_eq, List.flatMap_map, List.isEmpty_map]
    rfl
  rw [hbody, hbody]
  refine ((TellsAll.refl _).append htable).imp fun hall x hx => ?_
  have htitle : p.titleOf x.1 ∈ (DetailView.titles p n.questions).eraseDups :=
    List.mem_eraseDups.mpr (List.mem_map_of_mem hx)
  refine hall.2 ?_ _ htitle x (List.mem_filter.mpr ⟨hx, decide_eq_true rfl⟩)
  rw [Bool.not_eq_true', List.isEmpty_eq_false_iff_exists_mem]
  exact ⟨_, htitle⟩

/-- A table for office use tells what each question of the section shows. -/
theorem officeTable_tells (spanner : String) (qs : List QuestionNode) (a b : AnswerBook) :
    TellsAll (officeTable spanner (qs.map fun q => ⟨q.question.label, a.text q.question.id⟩))
      (officeTable spanner (qs.map fun q => ⟨q.question.label, b.text q.question.id⟩))
      (∀ q ∈ qs, a.text q.question.id = b.text q.question.id) := by
  have hrow (q : QuestionNode) :=
    (TellsAll.refl (cell 3 "decl-label decl-office-label" q.question.label)).append
      (.cell 3 "decl-value" (a.text q.question.id) (b.text q.question.id))
  have hrows := TellsAll.flatMap qs fun q _ => TellsAll.block 2 "tr" [] (hrow q)
  rw [officeTable, officeTable, List.flatMap_map, List.flatMap_map]
  refine TellsAll.block 0 _ _ (TellsAll.block 1 _ _ ?_)
  exact ((TellsAll.refl _).append hrows).imp fun hall q hq => (hall.2 q hq).2

end Html

/-! ## Sections -/

namespace SectionFragment

variable {n : SectionNode} {p : Profile} {number : Option Int} {c : SectionContext}
  {a b : AnswerBook}

/-- A section tells what its view tells. -/
theorem html_tells {P : Prop}
    (h : Html.TellsAll (SectionView.ofSection n a p c).body (SectionView.ofSection n b p c).body
      P) :
    Tells (ofSection n a p number c).html (ofSection n b p number c).html P := by
  -- The element, the introduction and the heading do not depend on the answers.
  have hcontent := Html.TellsAll.element "div"
    [⟨"class", [.fixed "section section-", .value n.header.mode.word]⟩,
      Html.attrOf "data-section-id" (toString n.header.id)]
    ((Html.TellsAll.refl
      (Html.eol :: Html.given c.showLearnerIntro (Html.learnerIntro p.evaluation) ++
        ((Heading.ofSection n.header number).map Html.heading).getD [])).append h)
  have hsingle (f : SectionFragment) : f.html = Html.renderAll [f.content] := by
    rw [html, Html.renderAll, Html.renderAll, String.append_empty]
  rw [hsingle, hsingle]
  exact hcontent.imp And.right

/-- Where two books of answers give a section the same markup, each question that its table shows
    has the same text under both: in a plain table these are all questions but instructions and page
    breaks, in a table for office use all questions. -/
theorem answers_of_html (hplain : SectionView.isParticipantSection n p c = false)
    (h : (ofSection n a p number c).html = (ofSection n b p number c).html) :
    (n.header.mode = .normal → ∀ q ∈ n.questions, q.question.kind ≠ .instructions →
      q.question.kind ≠ .pageBreak → (a.nodeValue q).shown = (b.nodeValue q).shown) ∧
    (n.header.mode = .declarations → n.header.effectiveKind = .officeUse →
      ∀ q ∈ n.questions, a.text q.question.id = b.text q.question.id) := by
  constructor
  · intro hmode q hq hinstructions hbreak
    have hview (answers : AnswerBook) : (SectionView.ofSection n answers p c).body =
        Html.detailBody (.ofSection n answers p) := by
      simp [SectionView.ofSection, hplain, hmode, SectionView.body]
    have htells := Html.detailBody_tells n a b p
    rw [← hview, ← hview] at htells
    have hkept : q ∈ n.questions.filter fun q =>
        q.question.kind ≠ .instructions ∧ q.question.kind ≠ .pageBreak :=
      List.mem_filter.mpr ⟨hq, decide_eq_true ⟨hinstructions, hbreak⟩⟩
    obtain ⟨i, hi, hget⟩ := List.mem_iff_getElem.mp hkept
    exact (html_tells htells).of_eq h (q, i) (List.mem_zipIdx_iff_getElem?.mpr
      (List.getElem?_eq_some_iff.mpr ⟨hi, hget⟩))
  · intro hmode hkind
    have hview (answers : AnswerBook) : (SectionView.ofSection n answers p c).body =
        Html.officeTable p.declarations.officeSpanner
          (n.questions.map fun q => ⟨q.question.label, answers.text q.question.id⟩) := by
      simp [SectionView.ofSection, hplain, hmode, SectionView.body, DeclarationView.ofSection,
        hkind, Html.declarationBody]
    have htells := Html.officeTable_tells p.declarations.officeSpanner n.questions a b
    rw [← hview, ← hview] at htells
    exact (html_tells htells).of_eq h

/-- A section in some mode about office use, with a page break and a question. -/
def officeSection (mode : String) : SectionNode :=
  { header := { (default : Section) with title := "Office use", modeText := some mode }
    questions := [⟨{ (default : Question) with id := 1, kind := .pageBreak }, [], []⟩,
      ⟨{ (default : Question) with id := 2, code := some "office.note" }, [], []⟩] }

/-- A text and the same text stored as a data value are printed alike in both tables. -/
theorem answers_of_html_of_data :
    let a : AnswerBook := ⟨[(⟨2, none⟩, .text "<td> & 'b'")], []⟩
    let b : AnswerBook := ⟨[(⟨2, none⟩, .structured (.text "<td> & 'b'"))], []⟩
    let html (mode : String) (answers : AnswerBook) : String :=
      (ofSection (officeSection mode) answers {} (some 3) {}).html
    (∀ mode ∈ ["normal", "declarations"], html mode a = html mode b) ∧
      (∀ q ∈ (officeSection "normal").questions, q.question.kind ≠ .instructions →
        q.question.kind ≠ .pageBreak → (a.nodeValue q).shown = (b.nodeValue q).shown) ∧
      ∀ q ∈ (officeSection "declarations").questions,
        a.text q.question.id = b.text q.question.id := by
  intro a b html
  have hhtml : ∀ mode ∈ ["normal", "declarations"], html mode a = html mode b := by
    decide +kernel
  exact ⟨hhtml, (answers_of_html rfl (hhtml "normal" (by decide))).1 (by decide),
    (answers_of_html rfl (hhtml "declarations" (by decide))).2 (by decide) (by decide)⟩

end SectionFragment

end FormPress
