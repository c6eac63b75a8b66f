/-
  FormPress.Proofs.Answers.Book

  What a book of answers finds.  Under a key it finds the last record that holds
  an answer (`value_build`), whatever else stands in the list of records.  Under
  a code it finds the answer of the last question with that code that has one,
  and without such a question what the form says (`codeValue_build`).  Both
  tables are filled by writes that replace an older entry, so both facts come
  from one equation about such writes (`Table.get?_foldl_of_put`).
-/
import FormPress.Answers.Book

namespace FormPress

/-! ## Writes one after the other -/

/-- A look-up after a list of writes, of which those with `p` write `v` under the key, finds what
    the last of these has written, and without one of them what was there before. -/
theorem Table.get?_foldl_of_put {κ α β : Type} [DecidableEq κ] {k : κ} {p : β → Bool} {v : β → α}
    {write : Table κ α → β → Table κ α}
    (hwrite : ∀ t x, (write t x).get? k = if p x then some (v x) else t.get? k)
    (xs : List β) (t : Table κ α) :
    (xs.foldl write t).get? k = ((xs.filter p).getLast?.map v).or (t.get? k) := by
  induction xs generalizing t with
  | nil => rfl
  | cons x rest ih =>
      rw [List.foldl_cons, ih, hwrite, List.filter_cons]
      -- A write under the key hides what was there, unless a later one does so too.
      cases p x with
      | false => rfl
      | true =>
          rw [if_pos rfl, if_pos rfl, List.getLast?_cons]
          cases (rest.filter p).getLast? <;> rfl

/-! ## Answers under keys -/

/-- Whether a record holds an answer: a text, a number or a data value. -/
def Answer.isGiven (a : Answer) : Bool :=
  a.valueText.isSome || a.valueNumber.isSome || !a.valueData.isNull

/-- A record without any of the three gives the empty answer, and no other one does. -/
theorem Answer.isEmpty_value (a : Answer) : a.value.isEmpty = !a.isGiven := by
  obtain ⟨question, row, text, number, data⟩ := a
  simp only [value, isGiven]
  -- The three are looked at in this order, and only data may be there and empty.
  cases text with
  | some s => rfl
  | none =>
      cases number with
      | some n => rfl
      | none => cases h : data.isNull <;> simp [AnswerValue.isEmpty]

/-- Whether a record holds an answer under a key. -/
def Answer.answers (a : Answer) (k : AnswerKey) : Bool := a.key = k && a.isGiven

/-- The last answer that some records hold under a key. -/
def lastGiven (answers : List Answer) (k : AnswerKey) : Option AnswerValue :=
  (answers.filter (·.answers k)).getLast?.map Answer.value

/-- Records that hold no answer under a key may be left out. -/
theorem lastGiven_filter {keep : Answer → Bool} {k : AnswerKey}
    (hkeep : ∀ a : Answer, a.answers k = true → keep a = true) (answers : List Answer) :
    lastGiven (answers.filter keep) k = lastGiven answers k := by
  have hboth : ∀ a : Answer, (a.answers k && keep a) = a.answers k := by
    intro a
    cases h : a.answers k with
    | false => rfl
    | true => rw [hkeep a h]; rfl
  rw [lastGiven, List.filter_filter, lastGiven]
  simp only [hboth]

/-- With each key once, the records may stand in any order. -/
theorem lastGiven_perm {xs ys : List Answer} (hperm : xs.Perm ys) (hkeys : (xs.map Answer.key).Nodup)
    (k : AnswerKey) : lastGiven xs k = lastGiven ys k := by
  have hfiltered : (xs.filter (·.answers k)).Perm (ys.filter (·.answers k)) := hperm.filter _
  -- All records that are left have the key `k`, so there is one at most.
  have hkey : ∀ a ∈ xs.filter (·.answers k), a.key = k := by
    intro a ha
    have h := (List.mem_filter.mp ha).2
    simp only [Answer.answers, Bool.and_eq_true, decide_eq_true_eq] at h
    exact h.1
  have hnodup : ((xs.filter (·.answers k)).map Answer.key).Nodup :=
    hkeys.sublist (List.filter_sublist.map _)
  rw [lastGiven, lastGiven]
  cases hxs : xs.filter (·.answers k) with
  | nil =>
      rw [hxs] at hfiltered
      rw [hfiltered.nil_eq]
  | cons a rest =>
      cases rest with
      | nil =>
          rw [hxs] at hfiltered
          rw [List.singleton_perm.mp hfiltered]
      | cons b rest =>
          rw [hxs] at hkey hnodup
          have ha : a.key = k := hkey a (by simp)
          have hb : b.key = k := hkey b (by simp)
          simp [ha, hb] at hnodup

namespace AnswerBook

/-- A record with an answer replaces what is there under its key. -/
theorem get?_enter (t : Table AnswerKey AnswerValue) (a : Answer) (k : AnswerKey) :
    (enter t a).get? k = if a.answers k then some a.value else t.get? k := by
  rw [enter, Answer.isEmpty_value, Answer.answers]
  cases a.isGiven with
  | false => simp
  | true =>
      simp only [Bool.not_true, Bool.false_eq_true, if_false, Bool.and_true, decide_eq_true_eq]
      exact Table.get?_put ..

/-- A book finds the last answer that the records hold under a key. -/
theorem value_build (answers : List Answer) (questions : List QuestionNode) (form : Option Form)
    (question : Int) (row : Option Int) :
    (build answers questions form).value question row =
      (lastGiven answers ⟨question, row⟩).getD .empty := by
  have h := Table.get?_foldl_of_put (fun t a => get?_enter t a ⟨question, row⟩) answers []
  rw [Table.get?_nil, Option.or_none] at h
  rw [value, build, lookUp, h, lastGiven]

/-! ## Answers under codes -/

/-- Whether a question as a whole is answered under a code. -/
def answersCode (byKey : Table AnswerKey AnswerValue) (code : String) (q : QuestionNode) : Bool :=
  q.question.code = some code && code != "" && !(lookUp byKey q.question.id none).isEmpty

/-- A question that is answered under its code replaces what is there. -/
theorem get?_enterCode (byKey : Table AnswerKey AnswerValue) (t : Table String AnswerValue)
    (q : QuestionNode) (code : String) :
    (enterCode byKey t q).get? code =
      if answersCode byKey code q then some (lookUp byKey q.question.id none) else t.get? code := by
  rw [enterCode, answersCode]
  cases q.question.code with
  | none => simp
  | some c =>
      generalize lookUp byKey q.question.id none = v
      by_cases hcode : c = code
      · subst hcode
        cases hempty : v.isEmpty <;> by_cases hc : c = "" <;> simp [hempty, hc, Table.get?_put]
      · cases hempty : v.isEmpty <;> by_cases hc : c = "" <;>
          simp [hempty, hc, Table.get?_put, hcode]

/-- What a stand-in gives for a code: its text, if it is for that code and not empty. -/
def standInFor (code : String) (standIn : String × Option String) : Option AnswerValue :=
  if standIn.1 = code then (standIn.2.filter (· != "")).map .text else none

/-- A stand-in gives a code what it has where nothing is there. -/
theorem get?_enterStandIn (t : Table String AnswerValue) (standIn : String × Option String)
    (code : String) :
    (enterStandIn t standIn).get? code = (t.get? code).or (standInFor code standIn) := by
  obtain ⟨c, given⟩ := standIn
  cases given with
  | none => simp [enterStandIn, standInFor]
  | some s =>
      by_cases hs : s = ""
      · simp [enterStandIn, standInFor, hs, Option.filter]
      · by_cases hc : c = code
        · subst hc
          cases hfound : t.get? c <;>
            simp [enterStandIn, standInFor, Option.filter, hs, hfound, Table.get?_put]
        · cases hfound : t.get? c <;>
            simp [enterStandIn, standInFor, hs, hfound, Table.get?_put, hc]

/-- A form speaks only where no question does. -/
theorem get?_foldl_enterStandIn (standIns : List (String × Option String))
    (t : Table String AnswerValue) (code : String) :
    (standIns.foldl enterStandIn t).get? code =
      (t.get? code).or (standIns.findSome? (standInFor code)) := by
  induction standIns generalizing t with
  | nil => simp
  | cons standIn rest ih =>
      rw [List.foldl_cons, ih, get?_enterStandIn, Option.or_assoc, List.findSome?_cons]
      cases standInFor code standIn <;> rfl

/-- A book finds under a code the answer of the last question that has one, else what the form
    says. -/
theorem codeValue_build (answers : List Answer) (questions : List QuestionNode)
    (form : Option Form) (code : String) :
    let byKey := answers.foldl enter []
    (build answers questions form).codeValue code =
      (((questions.filter (answersCode byKey code)).getLast?.map
          fun q => lookUp byKey q.question.id none).or
        (((form.map Form.standIns).getD []).findSome? (standInFor code))).getD .empty := by
  intro byKey
  have h := Table.get?_foldl_of_put (fun t q => get?_enterCode byKey t q code) questions []
  rw [Table.get?_nil, Option.or_none] at h
  rw [codeValue, build, get?_foldl_enterStandIn, h]

end AnswerBook

end FormPress
