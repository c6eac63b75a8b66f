/-
  FormPress.Proofs.Document.Stored

  A text or a number may be stored in a field of its own or as a data value
  (`Answer.asData`).  All readers but one take both alike (`readsAs_asData`): a
  signature takes the address of a picture from the text field only
  (`signature_asData`).  So a document does not depend on where an answer is
  stored unless the answer is a picture and its question asks for a signature,
  and then only the sections which ask that question may change
  (`plan_of_answer_as_data`).
-/
import FormPress.Proofs.Document.Answers

namespace FormPress

open AnswerBook (Alike)

/-! ## Records that hold their answer as data -/

namespace Answer

/-- What a record answers, as a data value. -/
def data (a : Answer) : Value :=
  match a.valueText with
  | some s => .text s
  | none =>
    match a.valueNumber with
    | some n => .scalar (.number n)
    | none => a.valueData

/-- The record that holds the same answer as a data value only. -/
def asData (a : Answer) : Answer :=
  { a with valueText := none, valueNumber := none, valueData := a.data }

/-- Whether the text field holds the address of a picture. -/
def holdsPicture (a : Answer) : Bool :=
  a.valueText.any fun s => "data:".toList.isPrefixOf s.toList

variable (a : Answer)

theorem key_asData : a.asData.key = a.key := rfl

/-- The two records are given alike and read alike. -/
theorem isGiven_asData : a.asData.isGiven = a.isGiven := by
  obtain ⟨question, row, text, number, data⟩ := a
  cases text with
  | some s => rfl
  | none =>
      cases number with
      | some n => rfl
      | none => rfl

/-- The two records are read alike. -/
theorem readsAs_asData : a.value.ReadsAs a.asData.value := by
  obtain ⟨question, row, text, number, data⟩ := a
  -- The text counts first, then the number; data is left as it is.
  cases text with
  | some s => exact ⟨rfl, rfl, rfl, rfl⟩
  | none =>
      cases number with
      | some n => exact ⟨rfl, rfl, rfl, rfl⟩
      | none => exact .of_eq rfl

/-- But for a picture in the text field, both give the same signature. -/
theorem signature_asData (hpicture : a.holdsPicture = false) (name : String) :
    a.value.signature name = a.asData.value.signature name := by
  obtain ⟨question, row, text, number, data⟩ := a
  cases text with
  | none =>
      cases number with
      | some n => rfl
      | none => rfl
  | some s =>
      have hplain : "data:".toList.isPrefixOf s.toList = false := hpicture
      show AnswerValue.signature (.text s) name = ⟨none, name, ""⟩
      rw [AnswerValue.signature, hplain, if_neg Bool.false_ne_true]

end Answer

/-! ## One record in place of another -/

section

variable {a b : Answer}

/-- A record in place of one of the same key changes what is given under this key at most, and
    there only from the one answer to the other. -/
theorem lastGiven_replaced (before after : List Answer) (hkey : b.key = a.key)
    (hgiven : b.isGiven = a.isGiven) (k : AnswerKey) :
    lastGiven (before ++ a :: after) k = lastGiven (before ++ b :: after) k ∨
      k = a.key ∧ lastGiven (before ++ a :: after) k = some a.value ∧
        lastGiven (before ++ b :: after) k = some b.value := by
  have hsame : b.answers k = a.answers k := by
    rw [Answer.answers, Answer.answers, hkey, hgiven]
  simp only [lastGiven, List.filter_append, List.filter_cons, hsame]
  cases hanswers : a.answers k with
  | false => exact .inl rfl
  | true =>
      rw [Answer.answers, Bool.and_eq_true, decide_eq_true_eq] at hanswers
      cases hlast : (after.filter (·.answers k)).getLast? with
      | none =>
          -- The record is the last that answers the key.
          rw [List.getLast?_eq_none_iff] at hlast
          refine .inr ⟨hanswers.1.symm, ?_, ?_⟩ <;> simp [hlast]
      | some c =>
          refine .inl ?_
          simp [List.getLast?_append, List.getLast?_cons, hlast]

end

/-- Whether a record holds a picture for a signature that the form asks for. -/
def Snapshot.signsWith (s : Snapshot) (a : Answer) : Prop :=
  a.holdsPicture ∧ a.rowId = none ∧
    ∃ q ∈ s.questions, q.question.kind = .signature ∧ q.question.id = a.questionId

section

variable {s t : Snapshot} {before after : List Answer} {a : Answer}

/-- Wherever one answer is stored, the values in the books of the snapshots are read alike. -/
theorem readsAs_of_asData (hs : s.answers = before ++ a :: after)
    (ht : t.answers = before ++ a.asData :: after) (question : Int) (row : Option Int) :
    ((AnswerBook.ofSnapshot s).value question row).ReadsAs
      ((AnswerBook.ofSnapshot t).value question row) := by
  rw [value_ofSnapshot, value_ofSnapshot, hs, ht]
  rcases lastGiven_replaced before after a.key_asData a.isGiven_asData ⟨question, row⟩ with
    hsame | ⟨-, ha, hdata⟩
  · exact .of_eq (by rw [hsame])
  · rw [ha, hdata]
    exact a.readsAs_asData

/-- A question is signed alike, unless the answer is a picture for it. -/
theorem signature_of_asData (hs : s.answers = before ++ a :: after)
    (ht : t.answers = before ++ a.asData :: after) {q : QuestionNode} (hq : q ∈ s.questions)
    (hkind : q.question.kind = .signature)
    (hunsigned : s.signsWith a → q.question.id ≠ a.questionId) (name : String) :
    ((AnswerBook.ofSnapshot s).value q.question.id).signature name =
      ((AnswerBook.ofSnapshot t).value q.question.id).signature name := by
  rw [value_ofSnapshot, value_ofSnapshot, hs, ht]
  rcases lastGiven_replaced before after a.key_asData a.isGiven_asData ⟨q.question.id, none⟩ with
    hsame | ⟨hkey, ha, hdata⟩
  · rw [hsame]
  · obtain ⟨hid, hrow⟩ := AnswerKey.mk.inj hkey
    rw [ha, hdata]
    apply a.signature_asData
    -- A picture would be the signature of this question.
    by_contra hpicture
    have hsigned : s.signsWith a := ⟨by simpa using hpicture, hrow.symm, q, hq, hkind, hid⟩
    exact hunsigned hsigned hid

/-- The books of snapshots that differ in where one answer is stored agree on all questions but a
    signed one. -/
theorem alike_of_asData {questions : List QuestionNode} (hform : s.form = t.form)
    (hsteps : s.steps = t.steps) (hs : s.answers = before ++ a :: after)
    (ht : t.answers = before ++ a.asData :: after) (hmem : ∀ q ∈ questions, q ∈ s.questions)
    (hunsigned : s.signsWith a → ∀ q ∈ questions, q.question.id ≠ a.questionId) :
    Alike (.ofSnapshot s) (.ofSnapshot t) questions := by
  apply ofSnapshot_alike_of_reads hform hsteps
  · intro _ _ k _
    exact readsAs_of_asData hs ht k.question k.row
  · intro q hq hkind name
    exact signature_of_asData hs ht (hmem q hq) hkind (fun h => hunsigned h q hq) name
  · intro q _ _ _ _
    exact readsAs_of_asData hs ht _ _

end

namespace DocumentMaker

variable (maker : DocumentMaker)

/-- It matters to a document only for the pictures of signatures whether an answer is stored in the
    text or number field or as a data value: unless the record holds such a picture, the plan is the
    same, and with a picture it is the same outside of the sections that ask its question. -/
theorem plan_of_answer_as_data (s : Snapshot) (before after : List Answer) (a : Answer)
    (shelf : Shelf) (log : List LogEntry) :
    let stored := { s with answers := before ++ a :: after }
    let asData := { s with answers := before ++ a.asData :: after }
    (¬ s.signsWith a → maker.plan stored = maker.plan asData) ∧
      match (maker.plan stored (shelf, log)).1, (maker.plan asData (shelf, log)).1 with
      | .ok p, .ok q => p.SameOutside {a.questionId} s.steps q
      | .error e, .error e' => e = e'
      | _, _ => False := by
  intro stored asData
  have hform : stored.form = asData.form := rfl
  have hsteps : stored.steps = asData.steps := rfl
  have halike : ∀ questions : List QuestionNode, (∀ q ∈ questions, q ∈ stored.questions) →
      (stored.signsWith a → ∀ q ∈ questions, q.question.id ≠ a.questionId) →
      Alike (.ofSnapshot stored) (.ofSnapshot asData) questions := fun _ hmem hunsigned =>
    alike_of_asData hform hsteps rfl rfl hmem hunsigned
  constructor
  · intro hunsigned
    apply maker.plan_congr hform hsteps
    exact halike _ (fun _ hq => hq) fun hsigned => absurd hsigned hunsigned
  · have hsame : ∀ crest header, (maker.planWith stored crest header).SameOutside {a.questionId}
        stored.steps (maker.planWith asData crest header) :=
      maker.planWith_sameOutside_of_alike hform hsteps
        fun questions hmem huntouched => halike questions hmem fun _ => huntouched
    rw [plan_eq, plan_eq, maker.header_eq hform, hform]
    simp only [bind_apply, pure_apply]
    -- The logos do not depend on the answers, so both plans go on in the same state.
    rcases maker.crest asData.form (shelf, log) with ⟨e | crest, looked⟩
    · rfl
    simp only
    rcases maker.header asData looked with ⟨e | header, looked'⟩
    · rfl
    exact hsame crest header

/-- A snapshot of a form with one question, which asks for a signature. -/
def signatureSnapshot (answers : List Answer) : Snapshot :=
  let mark : Question := { (default : Question) with id := 1, kind := .signature }
  { instanceId := 1
    form := default
    steps := [⟨default,
      [⟨{ (default : Section) with modeText := some "declarations" }, [⟨mark, [], []⟩]⟩]⟩]
    answers := answers }

/-- A name in place of a signature may be stored as a data value. -/
theorem plan_of_name_as_data :
    let name : Answer := { (default : Answer) with questionId := 1, valueText := some "Ada" }
    ¬ (signatureSnapshot []).signsWith name ∧
      (default : DocumentMaker).plan (signatureSnapshot [name]) =
        (default : DocumentMaker).plan (signatureSnapshot [name.asData]) := by
  intro name
  have hunsigned : ¬ (signatureSnapshot []).signsWith name := fun hsigned =>
    absurd hsigned.1 (by decide)
  exact ⟨hunsigned, (plan_of_answer_as_data default (signatureSnapshot []) [] [] name default []).1
    hunsigned⟩

/-- The picture of a signature is lost when it is stored as a data value. -/
theorem picture_as_data_lost :
    ¬ ∀ (maker : DocumentMaker) (s : Snapshot) (before after : List Answer) (a : Answer),
      maker.plan { s with answers := before ++ a :: after } =
        maker.plan { s with answers := before ++ a.asData :: after } := by
  intro hstored
  let picture : Answer := { (default : Answer) with questionId := 1, valueText := some "data:,x" }
  have hplan := congrFun (hstored default (signatureSnapshot []) [] [] picture) (default, [])
  rw [plan_default rfl, plan_default rfl] at hplan
  have hpages := congrArg (fun plan => plan.pages.flatMap fun page =>
    page.fragments.map (·.content.render)) (Except.ok.inj (congrArg Prod.fst hplan))
  revert hpages
  decide +kernel

end DocumentMaker

end FormPress
