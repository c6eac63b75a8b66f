/-
  FormPress.Proofs.Markup.Agreement

  Two books of answers under which the same signatures have a picture give every
  section the same blank view (`SectionView.blank_ofSection`): which layout a
  section has, which rows and cells there are and what the form says in them are
  decided without a look at the answers.
-/
import FormPress.Proofs.Markup.Blank
import Mathlib.Data.List.Basic

namespace FormPress

/-! ## Pictures of signatures -/

/-- The picture in the answer of a signature question. -/
def AnswerBook.picture (b : AnswerBook) (q : QuestionNode) : Option String :=
  ((b.value q.question.id).signature "").image

/-- Two books give a picture to the same signature questions. -/
def SignAlike (a b : AnswerBook) (questions : List QuestionNode) : Prop :=
  ∀ q ∈ questions, q.question.kind = .signature → (a.picture q).isSome = (b.picture q).isSome

instance (a b : AnswerBook) (questions : List QuestionNode) : Decidable (SignAlike a b questions) :=
  inferInstanceAs (Decidable (∀ q ∈ questions, q.question.kind = .signature →
    (a.picture q).isSome = (b.picture q).isSome))

/-- Books that sign alike do so for fewer questions. -/
theorem SignAlike.mono {a b : AnswerBook} {xs ys : List QuestionNode} (h : SignAlike a b ys)
    (hsub : ∀ q ∈ xs, q ∈ ys) : SignAlike a b xs :=
  fun q hq => h q (hsub q hq)

/-- A first text among fields is not empty. -/
theorem firstText_ne_empty (fields : Fields) (names : List String) :
    Fields.firstText fields names ≠ some "" := by
  induction names with
  | nil => simp [Fields.firstText]
  | cons name names ih =>
      -- An empty text is passed over, so the search goes on to the next name.
      rw [Fields.firstText]
      split
      · split
        · exact ih
        · rename_i s _ hs
          simpa using hs
      · exact ih

/-- A signature has no picture with an empty address. -/
theorem signature_image_ne_empty (v : AnswerValue) (name : String) :
    (v.signature name).image ≠ some "" := by
  unfold AnswerValue.signature
  split
  · exact firstText_ne_empty _ _
  · split
    · rename_i s hdata
      rintro hs
      obtain rfl : s = "" := Option.some.inj hs
      exact absurd hdata (by decide)
    · simp
  · simp

/-- The name that stands in for a missing one has no bearing on the picture. -/
theorem signature_image_fallback (v : AnswerValue) (name : String) :
    (v.signature name).image = (v.signature "").image := by
  unfold AnswerValue.signature
  split
  · rfl
  · split <;> rfl
  · rfl

/-- Of an address that is not empty only its presence is left. -/
theorem blankPicture_of_ne_empty {address : Option String} (h : address ≠ some "") :
    blankPicture address = if address.isSome then some "data:" else none := by
  cases address with
  | none => rfl
  | some s =>
      have hs : s ≠ "" := fun hs => h (by rw [hs])
      simp [blankPicture, hs]

/-- Where both books give a picture or neither does, the stand-ins are the same. -/
theorem blankPicture_signature {a b : AnswerBook} {q : QuestionNode} {f g : String}
    (h : (a.picture q).isSome = (b.picture q).isSome) :
    blankPicture ((a.value q.question.id).signature f).image =
      blankPicture ((b.value q.question.id).signature g).image := by
  rw [blankPicture_of_ne_empty (signature_image_ne_empty _ f),
    blankPicture_of_ne_empty (signature_image_ne_empty _ g), signature_image_fallback _ f,
    signature_image_fallback _ g]
  simp only [AnswerBook.picture] at h
  rw [h]

/-- Where both books give a picture or neither does, the blank signatures are the same. -/
theorem SignatureView.blank_ofQuestion {a b : AnswerBook} {q : QuestionNode}
    (labels : DeclarationProfile) (h : (a.picture q).isSome = (b.picture q).isSome) :
    (SignatureView.ofQuestion q a labels).blank = (SignatureView.ofQuestion q b labels).blank := by
  simp only [SignatureView.ofQuestion, SignatureView.blank]
  rw [blankPicture_signature h]

/-! ## Tables -/

namespace Table

variable {κ α β : Type} [DecidableEq κ]

/-- A table with its values changed. -/
def mapValues (f : α → β) (t : Table κ α) : Table κ β := t.map fun e => (e.1, f e.2)

/-- A changed table finds what was found, changed. -/
theorem get?_mapValues (f : α → β) (t : Table κ α) (k : κ) :
    get? (mapValues f t) k = (get? t k).map f := by
  induction t with
  | nil => rfl
  | cons e t ih =>
      rw [mapValues, List.map_cons, get?_cons, get?_cons]
      split
      · rfl
      · exact ih

theorem put_mapValues (f : α → β) (k : κ) (v : α) (t : Table κ α) :
    put k (f v) (mapValues f t) = mapValues f (put k v t) := by
  induction t with
  | nil => rfl
  | cons e t ih =>
      obtain ⟨k', v'⟩ := e
      rw [mapValues, List.map_cons, put, put]
      split
      · rfl
      · rw [← mapValues, ih]
        rfl

/-- A change of one value and a change of all values can be made in either order. -/
theorem update_mapValues (f : α → β) (k : κ) (start : α) (g : α → α) (g' : β → β)
    (hg : ∀ x, g' (f x) = f (g x)) (t : Table κ α) :
    update k (f start) g' (mapValues f t) = mapValues f (update k start g t) := by
  rw [update, get?_mapValues, update, ← put_mapValues, Option.getD_map, hg]

end Table

namespace DetailView

/-- A row without its answer, under its title. -/
def blankTitled (r : String × DetailRow) : String × DetailRow := (r.1, r.2.blank)

/-- The rows of a table are the same for two books but for their answers. -/
theorem titledRows_blank (a b : AnswerBook) (p : Profile) (i : Nat) (qs : List QuestionNode) :
    (titledRows a p i qs).map blankTitled = (titledRows b p i qs).map blankTitled := by
  induction qs generalizing i with
  | nil => rfl
  | cons q rest ih =>
      rw [titledRows, List.map_cons, ih, titledRows, List.map_cons]
      rfl

/-- Rows are collected in the same way whether they are blank or not. -/
theorem collect_foldl_blank (rows : List (String × DetailRow))
    (t : Table String (List DetailRow)) :
    (rows.map blankTitled).foldl (fun t r => Table.update r.1 [] (· ++ [r.2]) t)
        (Table.mapValues (List.map DetailRow.blank) t) =
      Table.mapValues (List.map DetailRow.blank)
        (rows.foldl (fun t r => Table.update r.1 [] (· ++ [r.2]) t) t) := by
  induction rows generalizing t with
  | nil => rfl
  | cons r rest ih =>
      rw [List.map_cons, List.foldl_cons, List.foldl_cons, ← ih]
      -- The row is put into its group, with its answer or without it.
      rw [← Table.update_mapValues _ r.1 [] (· ++ [r.2]) (· ++ [r.2.blank]) (by simp)]
      rfl

/-- Collecting rows into groups and taking away their answers can be done in either order. -/
theorem collect_blank (rows : List (String × DetailRow)) :
    collect (rows.map blankTitled) = (collect rows).map DetailGroup.blank := by
  have h := collect_foldl_blank rows []
  simp only [collect]
  rw [show ([] : Table String (List DetailRow)) =
    Table.mapValues (List.map DetailRow.blank) [] from rfl, h]
  simp [Table.mapValues, DetailGroup.blank]

theorem blank_ofSection (n : SectionNode) (a b : AnswerBook) (p : Profile) :
    (ofSection n a p).blank = (ofSection n b p).blank := by
  simp only [ofSection, blank]
  rw [← collect_blank, titledRows_blank a b, collect_blank]

end DetailView

theorem ParticipantView.blank_ofSection (n : SectionNode) (a b : AnswerBook) :
    (ParticipantView.ofSection n a).blank = (ParticipantView.ofSection n b).blank := by
  simp only [ParticipantView.ofSection, ParticipantView.blank, List.map_cons, List.map_nil,
    ParticipantView.mk.injEq, List.cons.injEq, and_true]
  -- Whether there is a question for a cell, and its label, are the same for both books.
  refine ⟨⟨?_, ?_⟩, ⟨?_, ?_⟩, ?_, ?_⟩ <;>
    generalize (n.questions.filter fun q => q.question.kind == .shortText)[(_ : Nat)]? = q <;>
    cases q <;>
    rfl

namespace LikertView

theorem cellsOf_blank (k : Nat) (s t : String) :
    (cellsOf k s).map (fun _ => false) = (cellsOf k t).map fun _ => false := by
  simp [cellsOf]

/-- The rows of a rating table are the same for two books but for the choices. -/
theorem rowsFrom_blank (a b : AnswerBook) (k number : Nat)
    (rows : List (QuestionNode × QuestionRow)) :
    (rowsFrom a k number rows).map LikertRow.blank =
      (rowsFrom b k number rows).map LikertRow.blank := by
  induction rows generalizing number with
  | nil => rfl
  | cons r rest ih =>
      obtain ⟨q, r⟩ := r
      rw [rowsFrom, List.map_cons, ih, rowsFrom, List.map_cons]
      simp only [rowOf, LikertRow.blank]
      rw [cellsOf_blank]

theorem commentsOf_blank (qs : List QuestionNode) (a b : AnswerBook) :
    (commentsOf qs a).map CommentsBox.blank = (commentsOf qs b).map CommentsBox.blank := by
  simp only [commentsOf, Option.map_map]
  rfl

theorem blank_ofSection (n : SectionNode) (a b : AnswerBook) (p : Profile) (c : SectionContext) :
    (ofSection n a p c).blank = (ofSection n b p c).blank := by
  simp only [ofSection, blank]
  rw [rowsFrom_blank a b, commentsOf_blank n.questions a b]

end LikertView

theorem GridView.blank_ofSection (n : SectionNode) (a b : AnswerBook) :
    (GridView.ofSection n a).blank = (GridView.ofSection n b).blank := by
  have hrow : ∀ settings columns q r,
      (GridView.rowOf settings columns a q r).blank =
        (GridView.rowOf settings columns b q r).blank := by
    intro settings columns q r
    simp [GridView.rowOf, GridRow.blank]
  simp only [GridView.ofSection, GridView.blank, List.map_flatMap, List.map_map,
    Function.comp_def, hrow]

theorem SubmissionView.blank_ofSection (n : SectionNode) (a b : AnswerBook) (p : Profile) :
    (SubmissionView.ofSection n a p).blank = (SubmissionView.ofSection n b p).blank := by
  simp only [SubmissionView.ofSection, SubmissionView.blank, List.map_map, Function.comp_def,
    SubmissionItem.blank]

/-! ## Sections -/

/-- Books that sign alike give the same blank section on reasonable adjustment. -/
theorem AdjustmentView.blank_ofSection {n : SectionNode} {a b : AnswerBook} (p : Profile)
    (c : SectionContext) (h : SignAlike a b n.questions) :
    (AdjustmentView.ofSection n a p c).blank = (AdjustmentView.ofSection n b p c).blank := by
  have himage : blankPicture (trainerSignature (n.firstOfKind .signature) a).image =
      blankPicture (trainerSignature (n.firstOfKind .signature) b).image := by
    -- The trainer's signature is that of the first signature question, if there is one.
    cases hq : n.firstOfKind .signature with
    | none => rfl
    | some q =>
        have hmem : q ∈ n.questions := List.mem_of_find?_eq_some hq
        have hkind : q.question.kind = .signature := by simpa using List.find?_some hq
        exact blankPicture_signature (h q hmem hkind)
  simp only [AdjustmentView.ofSection, AdjustmentView.blank]
  rw [himage]

namespace DeclarationView

theorem checklistOf_blank (qs : List QuestionNode) (a b : AnswerBook) :
    (checklistOf qs a).map ChecklistItem.blank = (checklistOf qs b).map ChecklistItem.blank := by
  simp only [checklistOf, List.map_map, Function.comp_def, ChecklistItem.blank]

/-- Books that sign alike give the same blank signatures. -/
theorem signaturesOf_blank {qs : List QuestionNode} {a b : AnswerBook}
    (labels : DeclarationProfile) (h : SignAlike a b qs) :
    (signaturesOf qs a labels).map SignatureView.blank =
      (signaturesOf qs b labels).map SignatureView.blank := by
  simp only [signaturesOf, List.map_map]
  apply List.map_congr_left
  intro q hq
  obtain ⟨hmem, hkind⟩ := List.mem_filter.mp hq
  exact SignatureView.blank_ofQuestion labels (h q hmem (by simpa using hkind))

/-- A question of a declaration is shown as the same kind of item for two books. -/
theorem genericItem?_blank {a b : AnswerBook} {q : QuestionNode} (labels : DeclarationProfile)
    (h : q.question.kind = .signature → (a.picture q).isSome = (b.picture q).isSome) :
    (genericItem? a labels q).map GenericItem.blank =
      (genericItem? b labels q).map GenericItem.blank := by
  simp only [genericItem?]
  split
  · rfl
  split
  · rename_i hkind
    have hview := SignatureView.blank_ofQuestion labels (h (by simpa using hkind))
    simp only [Option.map_some, GenericItem.blank, hview]
  split
  · simp only [Option.map_some, GenericItem.blank]
  · simp only [Option.map_some, GenericItem.blank]

theorem blank_ofSection {n : SectionNode} {a b : AnswerBook} (p : Profile)
    (h : SignAlike a b n.questions) : (ofSection n a p).blank = (ofSection n b p).blank := by
  have hitems :
      n.questions.filterMap (fun q => (genericItem? a p.declarations q).map GenericItem.blank) =
        n.questions.filterMap (fun q => (genericItem? b p.declarations q).map GenericItem.blank) :=
    List.filterMap_congr fun q hq => genericItem?_blank p.declarations (h q hq)
  -- What a declaration shows depends on the title of its section.
  simp only [ofSection]
  split
  · simp only [blank, checklistOf_blank n.questions a b]
  · simp only [blank, signaturesOf_blank p.declarations h]
  · simp only [blank, List.map_map, Function.comp_def, OfficeRow.blank]
  · simp only [blank, List.map_filterMap, hitems]

end DeclarationView

/-- Books that sign alike give a section the same blank view. -/
theorem SectionView.blank_ofSection {n : SectionNode} {a b : AnswerBook} (p : Profile)
    (c : SectionContext) (h : SignAlike a b n.questions) :
    (SectionView.ofSection n a p c).blank = (SectionView.ofSection n b p c).blank := by
  simp only [SectionView.ofSection]
  split
  · simp only [blank, ParticipantView.blank_ofSection n a b]
  split
  · simp only [blank, DetailView.blank_ofSection n a b]
  · simp only [blank, LikertView.blank_ofSection n a b]
  · simp only [blank, GridView.blank_ofSection n a b]
  · rfl
  · simp only [blank, SubmissionView.blank_ofSection n a b]
  · simp only [blank, AdjustmentView.blank_ofSection p c h]
  · simp only [blank, DeclarationView.blank_ofSection p h]

end FormPress
