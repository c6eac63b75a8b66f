/-
  FormPress.Proofs.Document.UnitCode

  The unit code on the cover and in the footer.  Both take it from an answer,
  else from the form (`UnitCodeChain`), but the white space around the form's
  code is dropped only by the cover, and only where the question was answered
  with an empty text: without an answer the code reaches both as it is written.
  So the two keep to the chain where an answer has a text or the form's code has
  no white space around it (`unitCode_chain`), and a padded code of the form
  parts them (`padded_code_unchained`).
-/
import FormPress.Document.Running
import FormPress.Proofs.Answers.Codes

namespace FormPress

/-! ## Texts that are given -/

/-- The first text is taken unless it is empty. -/
theorem firstGiven_cons (s : String) (texts : List String) :
    firstGiven (s :: texts) = if s = "" then firstGiven texts else s := by
  by_cases hs : s = "" <;> simp [firstGiven, hs]

/-- Of two texts the second one is taken if the first one is empty. -/
theorem firstGiven_pair (s t : String) : firstGiven [s, t] = if s = "" then t else s := by
  by_cases hs : s = "" <;> by_cases ht : t = "" <;> simp [firstGiven, hs, ht]

/-- A form's code shows as it is written where it stands in for an answer. -/
theorem shown_standInText (form : Form) :
    (((standInText (some form) "unit.code").map AnswerValue.text).getD .empty).shown =
      form.unitCode.getD "" := by
  have hfield : (some form).bind (·.standIn "unit.code") = form.unitCode := rfl
  cases htext : standInText (some form) "unit.code" with
  | some s =>
      rw [← hfield, (standInText_eq_some_iff.mp htext).1]
      rfl
  | none =>
      have hempty := standInText_eq_none_iff.mp htext
      rw [hfield] at hempty
      cases hcode : form.unitCode with
      | none => rfl
      | some s => exact (hempty s hcode).symm

/-- Under the code of the unit a snapshot shows what was answered, else the form's code as it is
    written. -/
theorem codeText_unitCode (s : Snapshot) :
    (AnswerBook.ofSnapshot s).codeText ["unit.code"] =
      match lastAnswered s.answers s.questions "unit.code" with
      | some v => v.shown
      | none => s.form.unitCode.getD "" := by
  have hvalue := AnswerBook.codeValue_eq s.answers s.questions (some s.form)
    (show "unit.code" ≠ "" by decide)
  have htext : ∀ b : AnswerBook, b.codeText ["unit.code"] = (b.codeValue "unit.code").shown := by
    intro b
    rw [b.codeText_eq_first]
    by_cases htext : (b.codeValue "unit.code").shown = "" <;> simp [htext]
  rw [htext, AnswerBook.ofSnapshot, hvalue]
  -- An answer is shown even if it is empty; only without one the form is asked.
  cases lastAnswered s.answers s.questions "unit.code" with
  | some v => rfl
  | none => exact shown_standInText s.form

/-! ## What the cover and the footer show -/

section

variable (s : Snapshot)

/-- The cover drops the white space around the form's code only behind an answer without a text. -/
theorem Cover.compose_unitCode (wording : CoverProfile) (crest : Option String) :
    let answer := lastAnswered s.answers s.questions "unit.code"
    let answered := (answer.map AnswerValue.shown).getD ""
    let given := s.form.unitCode.getD ""
    let written := if answer.isSome then Text.trim given else given
    (compose s.form (.ofSnapshot s) wording crest).unitCode =
      if answered = "" then if written = "" then wording.unitCodePlaceholder else written
      else answered := by
  simp only [compose]
  rw [firstGiven_cons, firstGiven_pair, codeText_unitCode]
  cases lastAnswered s.answers s.questions "unit.code" with
  | some v => rfl
  | none =>
      -- A code that does not come first is empty, and so it is without white space.
      by_cases hgiven : s.form.unitCode.getD "" = ""
      · simp [hgiven, show Text.trim "" = "" from rfl]
      · simp [hgiven]

/-- The footer shows the form's code as it is written. -/
theorem RunningFooter.compose_unitCode :
    let answer := lastAnswered s.answers s.questions "unit.code"
    let answered := (answer.map AnswerValue.shown).getD ""
    (compose s.form (.ofSnapshot s)).unitCode =
      if answered = "" then s.form.unitCode.getD "" else answered := by
  simp only [compose]
  rw [firstGiven_pair, codeText_unitCode]
  cases lastAnswered s.answers s.questions "unit.code" with
  | some v => rfl
  | none => simp

end

/-! ## The chain -/

/-- The unit code that a cover and a footer show, as one chain would give it: what was answered,
    else the form's code without the white space around it, else on the cover a substitute; where no
    substitute is shown the footer shows what the cover does. -/
structure UnitCodeChain (answered given substitute cover footer : String) : Prop where
  ofAnswer : answered ≠ "" → cover = answered ∧ footer = answered
  ofForm : answered = "" →
    cover = if Text.trim given = "" then substitute else Text.trim given
  together : answered = "" → cover ≠ substitute → footer = cover

/-- Where the form's code is not asked for, or has no white space around it, it is of no matter that
    only one of the two drops that. -/
theorem UnitCodeChain.of_plain {answered given written substitute cover footer : String}
    (hcover : cover = if answered = "" then if written = "" then substitute else written
      else answered)
    (hfooter : footer = if answered = "" then given else answered)
    (hwritten : written = Text.trim given ∨ written = given)
    (hplain : answered ≠ "" ∨ Text.trim given = given) :
    UnitCodeChain answered given substitute cover footer := by
  -- Without an answer the form's code is asked for, so it has no white space around it.
  have hsame : answered = "" → Text.trim given = given ∧ written = given := by
    intro hanswered
    have htrim := hplain.resolve_left (not_not_intro hanswered)
    exact ⟨htrim, hwritten.elim (·.trans htrim) id⟩
  refine ⟨?_, ?_, ?_⟩
  · intro hanswered
    rw [hcover, hfooter, if_neg hanswered, if_neg hanswered]
    exact ⟨rfl, rfl⟩
  · intro hanswered
    obtain ⟨htrim, hgiven⟩ := hsame hanswered
    rw [hcover, if_pos hanswered, hgiven, htrim]
  · intro hanswered hsubstitute
    rw [hcover, if_pos hanswered, (hsame hanswered).2] at hsubstitute ⊢
    rw [hfooter, if_pos hanswered]
    split at hsubstitute
    · exact absurd rfl hsubstitute
    · next hgiven => rw [if_neg hgiven]

/-- Whether the unit codes that a snapshot puts on its cover and into its footer keep to the
    chain. -/
def Snapshot.ChainsUnitCode (s : Snapshot) (wording : CoverProfile) (crest : Option String) :
    Prop :=
  UnitCodeChain (((lastAnswered s.answers s.questions "unit.code").map AnswerValue.shown).getD "")
    (s.form.unitCode.getD "") wording.unitCodePlaceholder
    (Cover.compose s.form (.ofSnapshot s) wording crest).unitCode
    (RunningFooter.compose s.form (.ofSnapshot s)).unitCode

/-- The unit codes of a snapshot: a text that was answered stands on the cover and in the footer.
    Without one the footer shows the form's code as it is written, and the cover does so where no
    answer was given, while behind an answer without a text it drops the white space around it.  So
    both keep to the chain where a text was answered or the form's code has no white space around
    it. -/
theorem unitCode_chain (s : Snapshot) (wording : CoverProfile) (crest : Option String) :
    let book := AnswerBook.ofSnapshot s
    let answer := lastAnswered s.answers s.questions "unit.code"
    let answered := (answer.map AnswerValue.shown).getD ""
    let given := s.form.unitCode.getD ""
    let written := if answer.isSome then Text.trim given else given
    let cover := (Cover.compose s.form book wording crest).unitCode
    let footer := (RunningFooter.compose s.form book).unitCode
    cover = (if answered = "" then if written = "" then wording.unitCodePlaceholder else written
        else answered) ∧
      footer = (if answered = "" then given else answered) ∧
      (answered ≠ "" ∨ Text.trim given = given → s.ChainsUnitCode wording crest) := by
  intro book answer answered given written cover footer
  have hcover := Cover.compose_unitCode s wording crest
  have hfooter := RunningFooter.compose_unitCode s
  have hwritten : written = Text.trim given ∨ written = given := by
    cases hanswer : answer.isSome with
    | true => exact .inl (if_pos hanswer)
    | false => exact .inr (if_neg (Bool.eq_false_iff.mp hanswer))
  exact ⟨hcover, hfooter, .of_plain hcover hfooter hwritten⟩

/-- A snapshot of a form with a unit code that asks for one. -/
def unitSnapshot (code : String) (answers : List Answer) : Snapshot :=
  { instanceId := 1
    form := { (default : Form) with unitCode := some code }
    steps := [⟨default, [⟨default, [AnswerBook.coded 1 "unit.code"]⟩]⟩]
    answers := answers }

/-- Behind an empty answer the form's code stands in both places if it has no white space around
    it. -/
theorem unitCode_chain_behind_empty_answer :
    let s := unitSnapshot "BSB40120" [AnswerBook.textFor 1 none ""]
    Text.trim "BSB40120" = "BSB40120" ∧
      (Cover.compose s.form (.ofSnapshot s) {} none).unitCode = "BSB40120" ∧
      s.ChainsUnitCode {} none := by
  intro s
  have htrim : Text.trim "BSB40120" = "BSB40120" := by decide
  have h := unitCode_chain s {} none
  exact ⟨htrim, h.1.trans (by decide), h.2.2 (.inr htrim)⟩

/-- A code of the form with white space around it breaks the chain: the cover shows it as it is
    written where nothing was answered, and the footer does so where an empty text was. -/
theorem padded_code_unchained :
    ¬ (unitSnapshot " BSB40120 " []).ChainsUnitCode {} none ∧
      ¬ (unitSnapshot " BSB40120 " [AnswerBook.textFor 1 none ""]).ChainsUnitCode {} none := by
  constructor
  · intro hchain
    exact absurd (hchain.ofForm rfl) (by decide)
  · intro hchain
    exact absurd (hchain.together rfl (by decide)) (by decide)

end FormPress
