/-
  FormPress.Proofs.Section.Ratings

  The rating table of a section.  Its rows are those of the rating questions,
  numbered through, and a row has one circle for each label of the scale
  (`LikertView.ofSection_ratings`).  At most one circle of a row is filled, because
  different numbers are written differently: it is that of the number which the
  answer of the row is the decimal numeral of.  A number is written as that
  numeral however it was stored (`Number.text_of_equals`), so a rating may be given as
  a text, as a whole number or as a double, each of them plain or as a data value.
-/
import FormPress.Proofs.Data.Numerals
import FormPress.Section.Likert
import Mathlib.Data.List.Forall2
import Mathlib.Data.List.Nodup

namespace FormPress

/-! ## Ratings -/

/-- The ways to store a rating: as its numeral or as a number equal to it, plain or as a data
    value. -/
inductive AnswerValue.Rates (p : Nat) : AnswerValue → Prop where
  | text : Rates p (.text (toString p))
  | number {m : Number} (h : m.Equals p) : Rates p (.number m)
  | textData : Rates p (.structured (.text (toString p)))
  | numberData {m : Number} (h : m.Equals p) : Rates p (.structured (.scalar (.number m)))

/-- A rating is shown as its numeral however it is stored. -/
theorem AnswerValue.Rates.shown {p : Nat} {v : AnswerValue} (h : v.Rates p) :
    v.shown = toString p := by
  cases h with
  | text => rfl
  | number h => exact Number.text_of_equals h
  | textData => rfl
  | numberData h => exact Number.text_of_equals h

/-! ## Circles -/

namespace LikertView

variable {k p : Nat} {answer : String}

/-- The circle of a number is filled just where the answer is its numeral. -/
theorem getElem?_cellsOf (h₁ : 1 ≤ p) (hk : p ≤ k) :
    (cellsOf k answer)[p - 1]? = some (decide (answer = toString p)) := by
  have hlt : p - 1 < k := by omega
  have hsucc : p - 1 + 1 = p := by omega
  rw [cellsOf, List.getElem?_map, List.getElem?_range hlt, Option.map_some, hsucc]
  rfl

/-- The numeral of a number of the scale fills the circle of this number and no other. -/
theorem cellsOf_numeral (k p : Nat) :
    cellsOf k (toString p) = (List.range' 1 k).map fun i => decide (i = p) := by
  rw [cellsOf, List.range'_eq_map_range, List.map_map]
  refine List.map_congr_left fun i _ => ?_
  rw [Function.comp_apply, Nat.add_comm 1 i, beq_eq_decide]
  exact decide_eq_decide.mpr (natText_inj.trans eq_comm)

/-- Of the circles of a row one is filled if the answer is the numeral of a number of the scale, and
    else none. -/
theorem count_cellsOf (k : Nat) (answer : String) :
    (cellsOf k answer).count true =
      if ∃ p ∈ List.range' 1 k, answer = toString p then 1 else 0 := by
  split
  next hread =>
    -- The circles are those of a list of numbers without repetition that are equal to one of them.
    obtain ⟨p, hp, rfl⟩ := hread
    have hcount : ((List.range' 1 k).map fun i => decide (i = p)).count true =
        (List.range' 1 k).count p := by
      rw [List.count_eq_countP, List.countP_map, List.count_eq_countP]
      exact List.countP_congr fun i _ => by simp
    rw [cellsOf_numeral, hcount]
    exact List.count_eq_one_of_mem List.nodup_range' hp
  next hother =>
    rw [List.count_eq_zero, cellsOf, List.mem_map]
    rintro ⟨i, hi, heq⟩
    refine hother ⟨i + 1, ?_, beq_iff_eq.mp heq⟩
    rw [List.mem_range'_1]
    have hi := List.mem_range.mp hi
    omega

/-- The selected number is that of the filled circle. -/
theorem selected_iff (k p : Nat) (answer : String) :
    ((cellsOf k answer).findIdx? id).map (· + 1) = some p ↔
      1 ≤ p ∧ p ≤ k ∧ answer = toString p := by
  have hlength : (cellsOf k answer).length = k := by
    rw [cellsOf, List.length_map, List.length_range]
  have hcell {i : Nat} (hi : i < (cellsOf k answer).length) :
      (cellsOf k answer)[i] = decide (answer = toString (i + 1)) := by
    rw [← Option.some_inj, ← List.getElem?_eq_getElem,
      ← getElem?_cellsOf (Nat.le_add_left ..) (hlength ▸ hi), Nat.add_sub_cancel]
  rw [Option.map_eq_some_iff]
  constructor
  · rintro ⟨i, hfind, rfl⟩
    obtain ⟨hi, hfilled, -⟩ := List.findIdx?_eq_some_iff_getElem.mp hfind
    rw [id, hcell hi, decide_eq_true_iff] at hfilled
    exact ⟨Nat.le_add_left .., hlength ▸ hi, hfilled⟩
  · -- No circle in front is filled, since another number is written in another way.
    rintro ⟨h₁, hk, rfl⟩
    have hi : p - 1 < (cellsOf k (toString p)).length := by omega
    refine ⟨p - 1, List.findIdx?_eq_some_iff_getElem.mpr ⟨hi, ?_, fun j hj => ?_⟩, by omega⟩
    · rw [id, hcell hi, decide_eq_true_iff, natText_inj]
      omega
    · rw [id, hcell (Nat.lt_trans hj hi), decide_eq_true_iff, natText_inj]
      omega

end LikertView

/-! ## Tables -/

/-- The rows of the rating questions of a section, each with its question, in document order. -/
def SectionNode.ratingRows (n : SectionNode) : List (QuestionNode × QuestionRow) :=
  (n.questions.filter (·.question.kind = .likert)).flatMap fun q => q.rows.map (q, ·)

namespace LikertView

/-- The rows that are numbered are those of the rating questions. -/
theorem ratedRows_eq (n : SectionNode) : ratedRows n.questions = n.ratingRows := by
  have hkind (k : QuestionKind) : (k == .likert) = decide (k = .likert) := by
    rw [Bool.eq_iff_iff]
    simp
  simp only [ratedRows, SectionNode.ratingRows, hkind]

/-- The row of a rating question in its table, where it has a number. -/
structure RatedRow (answers : AnswerBook) (k : Nat) (x : (QuestionNode × QuestionRow) × Nat)
    (row : LikertRow) : Prop where
  number : row.number = x.2
  label : row.label = x.1.2.label
  help : row.help = x.1.2.help
  shade : row.shade = if x.2 % 2 = 0 then .alternate else .plain
  /-- one circle for each label -/
  width : row.cells.length = k
  /-- no two circles are filled -/
  single : row.cells.count true ≤ 1
  /-- a circle is filled just where the answer is the numeral of its number -/
  filled : ∀ p, 1 ≤ p → p ≤ k →
    (row.cells[p - 1]? = some true ↔ answers.text x.1.1.question.id (some x.1.2.id) = toString p)
  /-- a rating fills the circle of its number and no other, however it is stored -/
  stored : ∀ p, 1 ≤ p → p ≤ k → (answers.value x.1.1.question.id (some x.1.2.id)).Rates p →
    row.cells = (List.range' 1 k).map fun i => decide (i = p)
  /-- the number of the filled circle is selected -/
  selected : ∀ p, row.selected = some p ↔ 1 ≤ p ∧ row.cells[p - 1]? = some true
  /-- nothing is selected where no circle is filled -/
  unselected : row.selected = none ↔ true ∉ row.cells

/-- The row made for a rating question is its row. -/
theorem rowOf_rated (answers : AnswerBook) (k number : Nat) (q : QuestionNode) (r : QuestionRow) :
    RatedRow answers k ((q, r), number) (rowOf answers k number q r) where
  number := rfl
  label := rfl
  help := rfl
  shade := by
    rw [rowOf]
    simp only [beq_iff_eq]
  width := by rw [rowOf, cellsOf, List.length_map, List.length_range]
  single := by
    rw [rowOf, count_cellsOf]
    split
    · exact Nat.le_refl 1
    · exact Nat.zero_le 1
  filled p h₁ hk := by
    rw [rowOf, getElem?_cellsOf h₁ hk, Option.some_inj, decide_eq_true_iff]
  stored p _ _ h := by
    rw [rowOf, AnswerBook.text, h.shown, cellsOf_numeral]
  selected p := by
    rw [rowOf, selected_iff]
    refine and_congr_right fun h₁ => ?_
    -- Behind the last circle there is nothing to fill.
    by_cases hk : p ≤ k
    · rw [getElem?_cellsOf h₁ hk, Option.some_inj, decide_eq_true_iff]
      exact and_iff_right hk
    · have hnone : (cellsOf k (answers.text q.question.id (some r.id)))[p - 1]? = none := by
        rw [List.getElem?_eq_none_iff, cellsOf, List.length_map, List.length_range]
        omega
      simp [hnone, hk]
  unselected := by
    rw [rowOf]
    simp only [Option.map_eq_none_iff, List.findIdx?_eq_none_iff, id]
    constructor
    · intro hnone hmem
      exact Bool.noConfusion (hnone true hmem)
    · intro hmem filled hfilled
      exact Bool.eq_false_iff.mpr fun h => hmem (h ▸ hfilled)

/-- The rows made for some rows of questions are theirs, numbered on from the first. -/
theorem rowsFrom_rated (answers : AnswerBook) (k number : Nat)
    (rows : List (QuestionNode × QuestionRow)) :
    List.Forall₂ (RatedRow answers k) (rows.zipIdx number) (rowsFrom answers k number rows) := by
  induction rows generalizing number with
  | nil => exact .nil
  | cons x rest ih =>
      rw [List.zipIdx_cons, rowsFrom]
      exact .cons (rowOf_rated answers k number x.1 x.2) (ih (number + 1))

/-- As many circles are filled as rows have a number of the scale for an answer. -/
theorem count_rowsFrom (answers : AnswerBook) (k number : Nat)
    (rows : List (QuestionNode × QuestionRow)) :
    ((rowsFrom answers k number rows).flatMap (·.cells)).count true =
      rows.countP fun x => ∃ p ∈ List.range' 1 k,
        answers.text x.1.question.id (some x.2.id) = toString p := by
  induction rows generalizing number with
  | nil => rfl
  | cons x rest ih =>
      rw [rowsFrom, List.flatMap_cons, List.count_append, ih, List.countP_cons, rowOf,
        count_cellsOf, Nat.add_comm]
      simp only [decide_eq_true_eq]

/-- The rating table of a section with a scale of `k` labels. -/
structure Ratings (v : LikertView) (n : SectionNode) (answers : AnswerBook) (k : Nat) : Prop where
  /-- the rows are those of the rating questions in document order, numbered from 1 -/
  rows : List.Forall₂ (RatedRow answers k) (n.ratingRows.zipIdx 1) v.rows
  /-- as many circles are filled as rows have an answer from 1 to `k` -/
  count : (v.rows.flatMap (·.cells)).count true =
    n.ratingRows.countP fun x => ∃ p ∈ List.range' 1 k,
      answers.text x.1.question.id (some x.2.id) = toString p

/-- The rating table of a section is complete and each of its rows has one rating at most. -/
theorem ofSection_ratings (n : SectionNode) (answers : AnswerBook) (p : Profile)
    (c : SectionContext) :
    (ofSection n answers p c).Ratings n answers p.likert.scaleLabels.length where
  rows := ratedRows_eq n ▸ rowsFrom_rated answers _ 1 (ratedRows n.questions)
  count := ratedRows_eq n ▸ count_rowsFrom answers _ 1 (ratedRows n.questions)

end LikertView

end FormPress
