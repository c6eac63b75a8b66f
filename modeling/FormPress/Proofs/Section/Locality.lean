/-
  FormPress.Proofs.Section.Locality

  What a section reads in a book of answers: the answers of its own questions
  and of their rows, and the names of student and trainer under their codes.
  Of an answer it reads the text, the items and the fields, and of the answer of
  a signature question the signature (`AnswerValue.ReadsAs`).  Two books that
  agree there give the section the same view and the same fragment
  (`SectionFragment.ofSection_congr`).  There is one lemma for each layout; all
  of them rest on the look-ups of `AnswerBook.Alike`.
-/
import FormPress.Section.Fragment
import Mathlib.Data.List.Basic

namespace FormPress

/-! ## Books that agree -/

/-- The keys under which a question has answers: the question as a whole and each of its rows. -/
def QuestionNode.keys (q : QuestionNode) : List AnswerKey :=
  ⟨q.question.id, none⟩ :: q.rows.map fun r => ⟨q.question.id, some r.id⟩

/-- The codes whose answers are shown outside of the section that asks for them. -/
def sharedCodes : List String :=
  ["unit.code", "unit.name", "qualification.name", "student.fullName", "student.id",
    "trainer.fullName"]

/-- The name of a signer is one of the texts shown outside of their sections. -/
theorem signerNameCode_shared (code : Option String) : signerNameCode code ∈ sharedCodes := by
  unfold signerNameCode
  split
  · decide
  · decide

/-- Two answers that are read alike: whether there is one, its text, its items and its fields. -/
structure AnswerValue.ReadsAs (v w : AnswerValue) : Prop where
  isEmpty : v.isEmpty = w.isEmpty
  shown : v.shown = w.shown
  items : v.items = w.items
  fields : v.fields = w.fields

/-- An answer is read as itself. -/
theorem AnswerValue.ReadsAs.of_eq {v w : AnswerValue} (h : v = w) : v.ReadsAs w :=
  h ▸ ⟨rfl, rfl, rfl, rfl⟩

namespace AnswerBook

/-- Two books agree on what is read of the answers of some questions and on the texts under all
    codes shown elsewhere. -/
structure Alike (a b : AnswerBook) (questions : List QuestionNode) : Prop where
  keys : ∀ q ∈ questions, ∀ k ∈ q.keys, (a.value k.question k.row).ReadsAs (b.value k.question k.row)
  signatures : ∀ q ∈ questions, q.question.kind = .signature → ∀ name,
    (a.value q.question.id).signature name = (b.value q.question.id).signature name
  codes : ∀ code ∈ sharedCodes, (a.codeValue code).shown = (b.codeValue code).shown

variable {a b : AnswerBook} {questions : List QuestionNode}

namespace Alike

/-- Books that agree on some questions agree on any of them. -/
theorem mono {others : List QuestionNode} (h : Alike a b questions)
    (hsub : ∀ q ∈ others, q ∈ questions) : Alike a b others where
  keys q hq := h.keys q (hsub q hq)
  signatures q hq := h.signatures q (hsub q hq)
  codes := h.codes

/-- Books that agree on a question agree on it as a whole. -/
theorem question (h : Alike a b questions) {q : QuestionNode} (hq : q ∈ questions) :
    (a.value q.question.id).ReadsAs (b.value q.question.id) :=
  h.keys q hq ⟨q.question.id, none⟩ (List.mem_cons_self ..)

/-- Books that agree on a question agree on each of its rows. -/
theorem row (h : Alike a b questions) {q : QuestionNode} (hq : q ∈ questions) {r : QuestionRow}
    (hr : r ∈ q.rows) :
    (a.value q.question.id (some r.id)).ReadsAs (b.value q.question.id (some r.id)) :=
  h.keys q hq ⟨q.question.id, some r.id⟩ (List.mem_cons_of_mem _ (List.mem_map.mpr ⟨r, hr, rfl⟩))

theorem text (h : Alike a b questions) {q : QuestionNode} (hq : q ∈ questions) :
    a.text q.question.id = b.text q.question.id :=
  (h.question hq).shown

/-- Books that agree on a question agree on the answer it shows in tables. -/
theorem nodeValue (h : Alike a b questions) {q : QuestionNode} (hq : q ∈ questions) :
    (a.nodeValue q).ReadsAs (b.nodeValue q) := by
  unfold AnswerBook.nodeValue
  cases hrows : q.rows with
  | nil => exact h.question hq
  | cons r rest =>
      have hr : r ∈ q.rows := by rw [hrows]; exact List.mem_cons_self ..
      exact h.row hq hr

end Alike

/-- The first text that is not blank under some codes is found under these codes. -/
theorem codeText_congr {codes : List String}
    (h : ∀ code ∈ codes, (a.codeValue code).shown = (b.codeValue code).shown) :
    a.codeText codes = b.codeText codes := by
  induction codes with
  | nil => rfl
  | cons code codes ih =>
      have hrest := ih fun c hc => h c (List.mem_cons_of_mem _ hc)
      rw [codeText, codeText, h code (List.mem_cons_self ..), hrest]

theorem Alike.codeText (h : Alike a b questions) {codes : List String}
    (hcodes : ∀ code ∈ codes, code ∈ sharedCodes) : a.codeText codes = b.codeText codes :=
  codeText_congr fun code hcode => h.codes code (hcodes code hcode)

/-- The text of the answer of a question that there may not be. -/
theorem Alike.maybeText (h : Alike a b questions) {q : Option QuestionNode}
    (hq : ∀ node, q = some node → node ∈ questions) :
    q.map (fun node => a.text node.question.id) = q.map fun node => b.text node.question.id := by
  cases q with
  | none => rfl
  | some node => rw [Option.map_some, Option.map_some, h.text (hq node rfl)]

end AnswerBook

open AnswerBook (Alike)

/-! ## The layouts -/

section

variable {n : SectionNode} {a b : AnswerBook} (p : Profile)

/-- The block of a signature reads the signature and the name of the signer. -/
theorem SignatureView.ofQuestion_congr {qs : List QuestionNode} {q : QuestionNode}
    (labels : DeclarationProfile) (h : Alike a b qs) (hq : q ∈ qs)
    (hkind : q.question.kind = .signature) : ofQuestion q a labels = ofQuestion q b labels := by
  have hname : a.codeText [signerNameCode q.question.code] =
      b.codeText [signerNameCode q.question.code] := by
    apply h.codeText
    intro code hcode
    rw [List.mem_singleton.mp hcode]
    exact signerNameCode_shared _
  simp only [ofQuestion, hname, h.signatures q hq hkind]

namespace DetailView

theorem titledRows_congr (i : Nat) {qs : List QuestionNode} (h : Alike a b qs) :
    titledRows a p i qs = titledRows b p i qs := by
  induction qs generalizing i with
  | nil => rfl
  | cons q rest ih =>
      have hrest : Alike a b rest := h.mono fun x hx => List.mem_cons_of_mem _ hx
      rw [titledRows, titledRows, ih (i + 1) hrest, (h.nodeValue (List.mem_cons_self ..)).shown]

theorem ofSection_congr (h : Alike a b n.questions) : ofSection n a p = ofSection n b p := by
  have htabled : Alike a b (tabled n.questions) := h.mono fun q hq => (List.mem_filter.mp hq).1
  rw [ofSection, titledRows_congr p 0 htabled, ofSection]

end DetailView

theorem ParticipantView.ofSection_congr (h : Alike a b n.questions) :
    ofSection n a = ofSection n b := by
  have hshort : ∀ (i : Nat) (q : QuestionNode),
      (n.questions.filter fun q => q.question.kind == .shortText)[i]? = some q →
      a.text q.question.id = b.text q.question.id := by
    intro i q hq
    exact h.text (List.mem_filter.mp (List.mem_of_getElem? hq)).1
  simp only [ofSection]
  congr 1
  apply List.map_congr_left
  intro i _
  -- A row has a cell on the left and one on the right, either of which may be blank.
  have hleft := hshort i
  have hright := hshort (i + 3)
  generalize (n.questions.filter fun q => q.question.kind == .shortText)[i]? = left at hleft ⊢
  generalize (n.questions.filter fun q => q.question.kind == .shortText)[i + 3]? = right at hright ⊢
  cases left <;> cases right <;> simp_all

namespace LikertView

theorem rowsFrom_congr (k number : Nat) {rows : List (QuestionNode × QuestionRow)}
    (h : ∀ x ∈ rows, a.text x.1.question.id (some x.2.id) = b.text x.1.question.id (some x.2.id)) :
    rowsFrom a k number rows = rowsFrom b k number rows := by
  induction rows generalizing number with
  | nil => rfl
  | cons x rest ih =>
      obtain ⟨q, r⟩ := x
      have hrow : rowOf a k number q r = rowOf b k number q r := by
        have htext := h (q, r) (List.mem_cons_self ..)
        simp only [rowOf, htext]
      rw [rowsFrom, rowsFrom, hrow, ih (number + 1) fun y hy => h y (List.mem_cons_of_mem _ hy)]

theorem ofSection_congr (c : SectionContext) (h : Alike a b n.questions) :
    ofSection n a p c = ofSection n b p c := by
  have hrated : ∀ x ∈ ratedRows n.questions,
      a.text x.1.question.id (some x.2.id) = b.text x.1.question.id (some x.2.id) := by
    intro x hx
    simp only [ratedRows, List.mem_flatMap, List.mem_filter, List.mem_map] at hx
    obtain ⟨q, ⟨hq, -⟩, r, hr, rfl⟩ := hx
    exact (h.row hq hr).shown
  have hcomments : commentsOf n.questions a = commentsOf n.questions b := by
    unfold commentsOf
    cases hfind : n.questions.find? fun q =>
      q.question.kind == .longText && Text.contains (q.question.code.getD "") "Comments" with
    | none => rfl
    | some q => rw [Option.map_some, Option.map_some, h.text (List.mem_of_find?_eq_some hfind)]
  simp only [ofSection, rowsFrom_congr _ 1 hrated, hcomments]

end LikertView

theorem GridView.ofSection_congr (h : Alike a b n.questions) : ofSection n a = ofSection n b := by
  have hrows : ∀ (settings : Fields) (columns : Nat),
      (n.questions.flatMap fun q => q.rows.map (rowOf settings columns a q)) =
        n.questions.flatMap fun q => q.rows.map (rowOf settings columns b q) := by
    intro settings columns
    apply List.flatMap_congr
    intro q hq
    apply List.map_congr_left
    intro r hr
    simp only [rowOf, (h.row hq hr).fields]
  simp only [ofSection, hrows]

namespace SubmissionView

theorem afterChoice_mem {qs : List QuestionNode} {q : QuestionNode} (h : afterChoice qs = some q) :
    q ∈ qs := by
  induction qs with
  | nil => cases h
  | cons x rest ih =>
      rw [afterChoice] at h
      split at h
      · exact List.mem_cons_of_mem _ (List.mem_of_head? h)
      · exact List.mem_cons_of_mem _ (ih h)

/-- The question about another way is one of the section. -/
theorem otherQuestion_mem {q : QuestionNode} (h : otherQuestion n = some q) : q ∈ n.questions := by
  unfold otherQuestion at h
  split at h
  · rename_i x hx
    split at h
    · obtain rfl := Option.some.inj h
      exact afterChoice_mem hx
    · exact List.mem_of_find?_eq_some h
  · exact List.mem_of_find?_eq_some h

theorem ofSection_congr (h : Alike a b n.questions) : ofSection n a p = ofSection n b p := by
  have hother := h.maybeText fun _ => otherQuestion_mem (n := n)
  have hselected :
      (n.firstOfKind .multiChoice).map (fun q => (a.value q.question.id).items) =
        (n.firstOfKind .multiChoice).map fun q => (b.value q.question.id).items := by
    cases hfind : n.firstOfKind .multiChoice with
    | none => rfl
    | some q =>
        have hq : q ∈ n.questions := List.mem_of_find?_eq_some hfind
        rw [Option.map_some, Option.map_some, (h.question hq).items]
  simp only [ofSection, hother, hselected]

end SubmissionView

namespace AdjustmentView

theorem textOf_congr {q : Option QuestionNode} (h : Alike a b n.questions)
    (hq : ∀ node, q = some node → node ∈ n.questions) : textOf q a = textOf q b := by
  rw [textOf, h.maybeText hq, textOf]

theorem trainerSignature_congr {q : Option QuestionNode} (h : Alike a b n.questions)
    (hq : ∀ node, q = some node → node ∈ n.questions ∧ node.question.kind = .signature) :
    trainerSignature q a = trainerSignature q b := by
  have htrainer : a.codeText ["trainer.fullName"] = b.codeText ["trainer.fullName"] :=
    h.codeText (by decide)
  cases q with
  | none => simp only [trainerSignature, htrainer]
  | some node =>
      obtain ⟨hmem, hkind⟩ := hq node rfl
      simp only [trainerSignature, htrainer, h.signatures node hmem hkind]

theorem ofSection_congr (c : SectionContext) (h : Alike a b n.questions) :
    ofSection n a p c = ofSection n b p c := by
  have hkind : ∀ kind node, n.firstOfKind kind = some node → node ∈ n.questions :=
    fun _ _ hfind => List.mem_of_find?_eq_some hfind
  have hcode : ∀ code node, n.findByCode code = some node → node ∈ n.questions :=
    fun _ _ hfind => List.mem_of_find?_eq_some hfind
  have hsignature : ∀ node, n.firstOfKind .signature = some node →
      node ∈ n.questions ∧ node.question.kind = .signature := by
    intro node hfind
    have hmem := hkind _ _ hfind
    rw [SectionNode.firstOfKind] at hfind
    have hsame := List.find?_some hfind
    exact ⟨hmem, beq_iff_eq.mp hsame⟩
  simp only [ofSection, textOf_congr h (hkind _), textOf_congr h (hcode _),
    trainerSignature_congr h hsignature]

end AdjustmentView

namespace DeclarationView

theorem genericItem?_congr {q : QuestionNode} (labels : DeclarationProfile)
    (h : Alike a b n.questions) (hq : q ∈ n.questions) :
    genericItem? a labels q = genericItem? b labels q := by
  by_cases hkind : q.question.kind = .signature
  · simp only [genericItem?, SignatureView.ofQuestion_congr labels h hq hkind, h.text hq]
  · have hother : (q.question.kind == .signature) = false := beq_false_of_ne hkind
    simp only [genericItem?, hother, h.text hq, Bool.false_eq_true, if_false]

theorem ofSection_congr (h : Alike a b n.questions) : ofSection n a p = ofSection n b p := by
  have hchecklist : checklistOf n.questions a = checklistOf n.questions b :=
    List.map_congr_left fun q hq => by rw [h.text (List.mem_filter.mp hq).1]
  have hsignatures : signaturesOf n.questions a p.declarations =
      signaturesOf n.questions b p.declarations :=
    List.map_congr_left fun q hq =>
      SignatureView.ofQuestion_congr p.declarations h (List.mem_filter.mp hq).1
        (beq_iff_eq.mp (List.mem_filter.mp hq).2)
  have hoffice : n.questions.map (fun q => (⟨q.question.label, a.text q.question.id⟩ : OfficeRow)) =
      n.questions.map fun q => ⟨q.question.label, b.text q.question.id⟩ :=
    List.map_congr_left fun q hq => by rw [h.text hq]
  have hgeneric : n.questions.filterMap (genericItem? a p.declarations) =
      n.questions.filterMap (genericItem? b p.declarations) :=
    List.filterMap_congr fun q hq => genericItem?_congr p.declarations h hq
  simp only [ofSection, hchecklist, hsignatures, hoffice, hgeneric]

end DeclarationView

/-! ## Sections -/

theorem SectionView.ofSection_congr (c : SectionContext) (h : Alike a b n.questions) :
    ofSection n a p c = ofSection n b p c := by
  simp only [ofSection, ParticipantView.ofSection_congr h, DetailView.ofSection_congr p h,
    LikertView.ofSection_congr p c h, GridView.ofSection_congr h, SubmissionView.ofSection_congr p h,
    AdjustmentView.ofSection_congr p c h, DeclarationView.ofSection_congr p h]

/-- Books that agree on the questions of a section give it the same fragment. -/
theorem SectionFragment.ofSection_congr (number : Option Int) (c : SectionContext)
    (h : Alike a b n.questions) : ofSection n a p number c = ofSection n b p number c := by
  simp only [ofSection, SectionView.ofSection_congr p c h]

end

end FormPress
