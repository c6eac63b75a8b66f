/-
  FormPress.Proofs.Answers.Codes

  What a book finds under a code, said without the tables it is made of.  The
  last question with the code that has an answer settles it, without such a
  question the form does, and else nothing is found (`FoundUnder`); the empty
  code is the exception, under which nothing is found even where questions carry
  it (`codeValue_settled`, `empty_code_unanswered`).

  A look-up is first put into one equation over the records, the questions and
  the form (`codeValue_eq`).  Its two parts, the last answered question and the
  text of a field, are then read as what they tell about these
  (`lastAnswered_eq_some_iff`, `standInText_eq_some_iff`).
-/
import FormPress.Proofs.Answers.Book

namespace FormPress

/-! ## The last one of a kind -/

/-- The last element with `p` is one that none with `p` comes after. -/
theorem getLast?_filter_eq_some_iff {α : Type} {p : α → Bool} {xs : List α} {x : α} :
    (xs.filter p).getLast? = some x ↔
      p x = true ∧ ∃ before after, xs = before ++ x :: after ∧ ∀ y ∈ after, p y = false := by
  rw [List.getLast?_eq_head?_reverse, ← List.filter_reverse, List.head?_filter,
    List.find?_eq_some_iff_append]
  simp only [Bool.not_eq_true']
  refine and_congr_right fun _ => ⟨?_, ?_⟩
  · rintro ⟨after, before, hreverse, hnone⟩
    refine ⟨before.reverse, after.reverse, ?_, by simpa using hnone⟩
    rw [← List.reverse_reverse xs, hreverse]
    simp
  · rintro ⟨before, after, rfl, hnone⟩
    exact ⟨after.reverse, before.reverse, by simp, by simpa using hnone⟩

/-! ## Questions that are answered -/

/-- A record is found under a key only if it holds an answer. -/
theorem lastGiven_isEmpty {answers : List Answer} {k : AnswerKey} {v : AnswerValue}
    (h : lastGiven answers k = some v) : v.isEmpty = false := by
  obtain ⟨a, ha, rfl⟩ := Option.map_eq_some_iff.mp h
  have hgiven := (getLast?_filter_eq_some_iff.mp ha).1
  rw [Answer.answers, Bool.and_eq_true] at hgiven
  rw [Answer.isEmpty_value, hgiven.2]
  rfl

/-- The answer that some records hold for a question as a whole. -/
def QuestionNode.given (answers : List Answer) (q : QuestionNode) : Option AnswerValue :=
  lastGiven answers ⟨q.question.id, none⟩

/-- Whether some records hold an answer for a question as a whole and the question has a code. -/
def QuestionNode.isAnsweredUnder (answers : List Answer) (code : String) (q : QuestionNode) :
    Bool :=
  q.question.code = some code && (q.given answers).isSome

section

variable {answers : List Answer} {questions : List QuestionNode} {code : String}

/-- What makes a question count as answered under a code. -/
theorem QuestionNode.isAnsweredUnder_eq_true {q : QuestionNode} :
    q.isAnsweredUnder answers code = true ↔
      q.question.code = some code ∧ ∃ v, q.given answers = some v := by
  rw [isAnsweredUnder, Bool.and_eq_true, decide_eq_true_eq, Option.isSome_iff_exists]

/-- A question with the code may still have no answer. -/
theorem QuestionNode.isAnsweredUnder_eq_false {q : QuestionNode} :
    q.isAnsweredUnder answers code = false ↔
      (q.question.code = some code → q.given answers = none) := by
  rw [isAnsweredUnder, Bool.and_eq_false_imp, decide_eq_true_eq, Option.isSome_eq_false_iff,
    Option.isNone_iff_eq_none]

end

/-- The answer of the last question with a code that has one. -/
def lastAnswered (answers : List Answer) (questions : List QuestionNode) (code : String) :
    Option AnswerValue :=
  (questions.filter (·.isAnsweredUnder answers code)).getLast?.bind (·.given answers)

/-- The field of a form that stands in for a code. -/
def Form.standIn (form : Form) (code : String) : Option String :=
  match code with
  | "qualification.code" => form.qualificationCode
  | "qualification.name" => form.qualificationName
  | "unit.code" => form.unitCode
  | "unit.name" => form.unitName
  | _ => none

/-- The text with which a form, if there is one, stands in for a code; an empty field does not. -/
def standInText (form : Option Form) (code : String) : Option String :=
  (form.bind (·.standIn code)).filter (· != "")

/-- The text of a stand-in is that of its field, if there is some. -/
theorem standInText_eq_some_iff {form : Option Form} {code s : String} :
    standInText form code = some s ↔ form.bind (·.standIn code) = some s ∧ s ≠ "" := by
  rw [standInText, Option.filter_eq_some_iff, bne_iff_ne]

/-- A form is silent on a code where the field is missing or empty. -/
theorem standInText_eq_none_iff {form : Option Form} {code : String} :
    standInText form code = none ↔ ∀ s, form.bind (·.standIn code) = some s → s = "" := by
  simp only [standInText, Option.filter_eq_none_iff, bne_iff_ne, ne_eq, Decidable.not_not]

/-- The stand-ins of a form give for a code what its field holds, unless that is empty. -/
theorem Form.findSome?_standIns (form : Form) (code : String) :
    form.standIns.findSome? (AnswerBook.standInFor code) =
      ((form.standIn code).filter (· != "")).map .text := by
  unfold Form.standIn
  split
  case h_1 =>
      cases h : form.qualificationCode.filter (· != "") <;>
        simp [standIns, AnswerBook.standInFor, h]
  case h_2 =>
      cases h : form.qualificationName.filter (· != "") <;>
        simp [standIns, AnswerBook.standInFor, h]
  case h_3 =>
      cases h : form.unitCode.filter (· != "") <;> simp [standIns, AnswerBook.standInFor, h]
  case h_4 => simp [standIns, AnswerBook.standInFor]
  case h_5 h₁ h₂ h₃ h₄ =>
      simp [standIns, AnswerBook.standInFor, Ne.symm h₁, Ne.symm h₂, Ne.symm h₃, Ne.symm h₄]

namespace AnswerBook

section

variable (answers : List Answer) (questions : List QuestionNode) (form : Option Form)

/-! ## A look-up as one equation -/

/-- A question as a whole is looked up as the answer that is given for it. -/
theorem lookUp_given (q : QuestionNode) :
    lookUp (answers.foldl enter []) q.question.id none = (q.given answers).getD .empty :=
  value_build answers [] none q.question.id none

/-- A question settles a code just where it is answered under it. -/
theorem answersCode_eq {code : String} (hcode : code ≠ "") (q : QuestionNode) :
    answersCode (answers.foldl enter []) code q = q.isAnsweredUnder answers code := by
  rw [answersCode, lookUp_given, QuestionNode.isAnsweredUnder, bne_iff_ne.mpr hcode, Bool.and_true]
  cases hgiven : q.given answers with
  | none => rfl
  | some v => rw [Option.getD_some, lastGiven_isEmpty hgiven]; rfl

/-- Under a code a book finds the last answer to a question with it, else the text of the form. -/
theorem codeValue_eq {code : String} (hcode : code ≠ "") :
    (build answers questions form).codeValue code =
      ((lastAnswered answers questions code).or
        ((standInText form code).map .text)).getD .empty := by
  have hform : ((form.map Form.standIns).getD []).findSome? (standInFor code) =
      (standInText form code).map .text := by
    cases form with
    | none => rfl
    | some form => exact form.findSome?_standIns code
  rw [codeValue_build, hform, funext (answersCode_eq answers hcode), lastAnswered]
  cases hlast : (questions.filter (·.isAnsweredUnder answers code)).getLast? with
  | none => rfl
  | some q =>
      -- The last question was kept because it has an answer.
      have hanswered := (getLast?_filter_eq_some_iff.mp hlast).1
      rw [QuestionNode.isAnsweredUnder, Bool.and_eq_true] at hanswered
      obtain ⟨v, hv⟩ := Option.isSome_iff_exists.mp hanswered.2
      simp [lookUp_given, hv]

/-- Under the empty code a book finds nothing. -/
theorem codeValue_empty_code : (build answers questions form).codeValue "" = .empty := by
  have hcode : answersCode (answers.foldl enter []) "" = fun _ => false := by
    funext q
    simp [answersCode]
  have hform : ((form.map Form.standIns).getD []).findSome? (standInFor "") = none := by
    cases form with
    | none => rfl
    | some form => simp [Form.standIns, standInFor]
  have hnone : questions.filter (fun _ => false) = [] := by simp
  rw [codeValue_build, hcode, hform, hnone]
  rfl

end

end AnswerBook

/-! ## What settles a code -/

section

variable {answers : List Answer} {questions : List QuestionNode} {form : Option Form}
  {code : String} {v : AnswerValue}

/-- The last answered question is one that is answered, with none behind it. -/
theorem lastAnswered_eq_some_iff :
    lastAnswered answers questions code = some v ↔
      ∃ before q after, questions = before ++ q :: after ∧ q.question.code = some code ∧
        q.given answers = some v ∧
        ∀ r ∈ after, r.question.code = some code → r.given answers = none := by
  simp only [lastAnswered, Option.bind_eq_some_iff, getLast?_filter_eq_some_iff,
    QuestionNode.isAnsweredUnder_eq_true, QuestionNode.isAnsweredUnder_eq_false]
  constructor
  · rintro ⟨q, ⟨⟨hcode, -⟩, before, after, hsplit, hlast⟩, hv⟩
    exact ⟨before, q, after, hsplit, hcode, hv, hlast⟩
  · rintro ⟨before, q, after, hsplit, hcode, hv, hlast⟩
    exact ⟨q, ⟨⟨hcode, v, hv⟩, before, after, hsplit, hlast⟩, hv⟩

/-- Without an answered question there is no last one. -/
theorem lastAnswered_eq_none_iff :
    lastAnswered answers questions code = none ↔
      ∀ q ∈ questions, q.question.code = some code → q.given answers = none := by
  rw [lastAnswered]
  cases hlast : (questions.filter (·.isAnsweredUnder answers code)).getLast? with
  | none =>
      rw [List.getLast?_eq_none_iff, List.filter_eq_nil_iff] at hlast
      refine iff_of_true rfl fun q hq => ?_
      exact QuestionNode.isAnsweredUnder_eq_false.mp (Bool.eq_false_iff.mpr (hlast q hq))
  | some q =>
      -- Both sides speak of `q`, which is answered.
      obtain ⟨hq, before, after, rfl, -⟩ := getLast?_filter_eq_some_iff.mp hlast
      obtain ⟨hcode, v, hv⟩ := QuestionNode.isAnsweredUnder_eq_true.mp hq
      refine iff_of_false ?_ fun hnone => ?_
      · rw [Option.bind_some, hv]
        exact Option.some_ne_none v
      · rw [hnone q (by simp) hcode] at hv
        cases hv

/-- What is found under a code: the answer of the last question with this code that has one as a
    whole, else the text of the field of the form that stands in for it, else nothing. -/
inductive FoundUnder (answers : List Answer) (questions : List QuestionNode) (form : Option Form)
    (code : String) : AnswerValue → Prop where
  | answered (before after : List QuestionNode) {q : QuestionNode} {v : AnswerValue}
      (here : questions = before ++ q :: after) (carries : q.question.code = some code)
      (given : q.given answers = some v)
      (last : ∀ r ∈ after, r.question.code = some code → r.given answers = none) :
      FoundUnder answers questions form code v
  | stoodIn {s : String}
      (unanswered : ∀ q ∈ questions, q.question.code = some code → q.given answers = none)
      (given : form.bind (·.standIn code) = some s) (hasText : s ≠ "") :
      FoundUnder answers questions form code (.text s)
  | nothing
      (unanswered : ∀ q ∈ questions, q.question.code = some code → q.given answers = none)
      (silent : ∀ s, form.bind (·.standIn code) = some s → s = "") :
      FoundUnder answers questions form code .empty

/-- What settles a code is the last answered question, else the form. -/
theorem foundUnder_iff :
    FoundUnder answers questions form code v ↔
      ((lastAnswered answers questions code).or
        ((standInText form code).map .text)).getD .empty = v := by
  constructor
  · intro h
    cases h with
    | answered _ _ here carries given last =>
        rw [lastAnswered_eq_some_iff.mpr ⟨_, _, _, here, carries, given, last⟩]
        rfl
    | stoodIn unanswered given hasText =>
        rw [lastAnswered_eq_none_iff.mpr unanswered,
          standInText_eq_some_iff.mpr ⟨given, hasText⟩]
        rfl
    | nothing unanswered silent =>
        rw [lastAnswered_eq_none_iff.mpr unanswered, standInText_eq_none_iff.mpr silent]
        rfl
  · rintro rfl
    -- A question that is found settles the code; if there is none the form is asked.
    cases hlast : lastAnswered answers questions code with
    | some v =>
        obtain ⟨_, _, _, here, carries, given, last⟩ := lastAnswered_eq_some_iff.mp hlast
        exact .answered _ _ here carries given last
    | none =>
        have unanswered := lastAnswered_eq_none_iff.mp hlast
        cases hform : standInText form code with
        | some s =>
            obtain ⟨given, hasText⟩ := standInText_eq_some_iff.mp hform
            exact .stoodIn unanswered given hasText
        | none => exact .nothing unanswered (standInText_eq_none_iff.mp hform)

end

namespace AnswerBook

/-! ## Looking up codes -/

/-- Records with a row have no say under any code. -/
theorem codeValue_without_rows (answers : List Answer) (questions : List QuestionNode)
    (form : Option Form) (code : String) :
    (build (answers.filter (·.rowId.isNone)) questions form).codeValue code =
      (build answers questions form).codeValue code := by
  by_cases hcode : code = ""
  · rw [hcode, codeValue_empty_code, codeValue_empty_code]
  · have hkeep : ∀ q : QuestionNode, ∀ a : Answer,
        a.answers ⟨q.question.id, none⟩ = true → a.rowId.isNone = true := by
      intro q a ha
      rw [Answer.answers, Bool.and_eq_true, decide_eq_true_eq] at ha
      have hrow : a.rowId = none := congrArg AnswerKey.row ha.1
      rw [hrow]
      rfl
    have hgiven : QuestionNode.given (answers.filter (·.rowId.isNone)) =
        QuestionNode.given answers := funext fun q => lastGiven_filter (hkeep q) answers
    rw [codeValue_eq _ _ _ hcode, codeValue_eq _ _ _ hcode]
    simp only [lastAnswered, QuestionNode.isAnsweredUnder, hgiven]

/-- Of several codes the first one with a text gives it. -/
theorem codeText_eq_first (b : AnswerBook) (codes : List String) :
    b.codeText codes =
      ((codes.map fun code => (b.codeValue code).shown).find? (· != "")).getD "" := by
  induction codes with
  | nil => rfl
  | cons code rest ih =>
      rw [codeText, List.map_cons, ih]
      by_cases htext : (b.codeValue code).shown = ""
      · simp only [htext, beq_self_eq_true, if_true]
        rw [List.find?_cons_of_neg (by simp)]
      · rw [List.find?_cons_of_pos (by simpa using htext)]
        simp [htext]

/-- A code that is not empty is settled by the last question with it that is answered, else by the
    form, and nothing is found under the empty one.  Answers to rows have no say, and of several
    codes the first one with a text gives it. -/
theorem codeValue_settled (answers : List Answer) (questions : List QuestionNode)
    (form : Option Form) :
    let book := build answers questions form
    (∀ (code : String) (v : AnswerValue), code ≠ "" →
        (book.codeValue code = v ↔ FoundUnder answers questions form code v)) ∧
      book.codeValue "" = .empty ∧
      (∀ code : String,
        (build (answers.filter (·.rowId.isNone)) questions form).codeValue code =
          book.codeValue code) ∧
      ∀ codes : List String, book.codeText codes =
        ((codes.map fun code => (book.codeValue code).shown).find? (· != "")).getD "" := by
  intro book
  refine ⟨?_, codeValue_empty_code .., codeValue_without_rows answers questions form,
    codeText_eq_first book⟩
  intro code v hcode
  rw [codeValue_eq answers questions form hcode, foundUnder_iff]

/-- A question with a code. -/
def coded (id : Int) (code : String) : QuestionNode :=
  ⟨{ (default : Question) with id := id, code := some code }, [], []⟩

/-- A record that holds a text for a question or for one of its rows. -/
def textFor (id : Int) (row : Option Int) (s : String) : Answer :=
  { (default : Answer) with questionId := id, rowId := row, valueText := some s }

/-- The last answered question settles its code with an empty text too, against earlier questions,
    the rows of a later one and the form. -/
theorem codeValue_settled_by_empty_text :
    let answers := [textFor 1 none "first", textFor 2 none "", textFor 3 (some 1) "row"]
    let questions := [coded 1 "unit.code", coded 2 "unit.code", coded 3 "unit.code"]
    let form := some { (default : Form) with unitCode := some "of the form" }
    "unit.code" ≠ "" ∧ (build answers questions form).codeValue "unit.code" = .text "" := by
  intro answers questions form
  have hcode : "unit.code" ≠ "" := by decide
  have hfound : FoundUnder answers questions form "unit.code" (.text "") :=
    .answered [coded 1 "unit.code"] [coded 3 "unit.code"] rfl rfl rfl (by simp [coded]; rfl)
  exact ⟨hcode, ((codeValue_settled answers questions form).1 _ _ hcode).mpr hfound⟩

/-- The empty code is no code: nothing is found under it, although a question carries it and is
    answered. -/
theorem empty_code_unanswered :
    ¬ ∀ (answers : List Answer) (questions : List QuestionNode) (form : Option Form)
      (code : String) (v : AnswerValue),
      (build answers questions form).codeValue code = v ↔
        FoundUnder answers questions form code v := by
  intro hsettled
  have hfound :
      FoundUnder [textFor 7 none "given"] [coded 7 ""] (some default) "" (.text "given") :=
    .answered [] [] rfl rfl rfl (by simp)
  have hvalue := (hsettled ..).mpr hfound
  rw [codeValue_empty_code] at hvalue
  cases hvalue

end AnswerBook

end FormPress
