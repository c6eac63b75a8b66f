/-
  FormPress.Proofs.Tables.Isolation

  An instance is loaded from its own data alone.  From an instance keys lead to
  its form, from the form to its steps, and so on to the options and rows of its
  questions (`Scope`).  A record that none of these keys leads to is passed over
  wherever it stands and whatever it holds, so tables that are the same within
  the scope of an instance give the same snapshot of it
  (`load_ignores_other_records`).
-/
import FormPress.Document.Plan
import FormPress.Proofs.Tables.Reading

namespace FormPress

/-! ## Records that no key leads to -/

/-- Whether a value is a record whose field holds none of some keys. -/
def Value.isOther (field : String) (keys : List Value) : Value → Bool
  | .object r => !keys.any fun key => (Fields.get r field).same key
  | _ => false

/-- Whether a value is a record whose field holds none of some keys, but something that can be a
    key. -/
def Value.isOtherPart (field : String) (keys : List Value) : Value → Bool
  | .object r => (Fields.get r field).key?.isSome && (Value.object r).isOther field keys
  | _ => false

/-- The keys that lead from an instance to its data, table by table.  Below questions they are the
    ids as the question records hold them, above that the ids as they were read. -/
structure Scope where
  instanceId : Value
  formKey : Value
  form : Value
  steps : List Value
  sections : List Value
  questions : List Value

namespace FormTables

/-- The tables without the records outside of a scope. -/
def within (t : FormTables) (c : Scope) : FormTables where
  instances := t.instances.filter (!·.isOther "id" [c.instanceId])
  forms := t.forms.filter (!·.isOther "id" [c.formKey])
  steps := t.steps.filter (!·.isOther "form_id" [c.form])
  sections := t.sections.filter (!·.isOtherPart "step_id" c.steps)
  questions := t.questions.filter (!·.isOtherPart "section_id" c.sections)
  options := t.options.filter (!·.isOtherPart "question_id" c.questions)
  rows := t.rows.filter (!·.isOtherPart "question_id" c.questions)
  answers := t.answers.filter (!·.isOther "instance_id" [c.instanceId])

/-- The key of the form that the record of an instance holds. -/
def formKey (t : FormTables) (id : Value) : Value :=
  match findRecord id t.instances with
  | .ok (some r) => Fields.get r "form_id"
  | _ => .null

/-- The id in the record of a question that belongs to one of some sections. -/
def questionId? (sections : List SectionNode) : Value → Option Value
  | .object r =>
    if sections.any fun n => (Fields.get r "section_id").same (.int n.header.id) then
      some (Fields.get r "id")
    else none
  | _ => none

/-- The scope of an instance that was loaded. -/
def scope (t : FormTables) (id : Value) (s : Snapshot) : Scope where
  instanceId := id
  formKey := t.formKey id
  form := .int s.form.id
  steps := s.steps.map fun n => .int n.step.id
  sections := s.sections.map fun n => .int n.header.id
  questions := t.questions.filterMap (questionId? s.sections)

/-! ## Lists of records -/

/-- A record is another one if its field is not equal to the key. -/
theorem isOther_iff {field : String} {key v : Value} :
    v.isOther field [key] = true ↔ ∃ r, v = .object r ∧ (Fields.get r field).same key = false := by
  cases v with
  | object r => simp [Value.isOther]
  | _ => simp [Value.isOther]

/-- A function of a table that passes over some records finds the same without them. -/
theorem filter_passedOver {α : Type} {f : List Value → α} {other : Value → Bool}
    (hother : ∀ v rest, other v = true → f (v :: rest) = f rest)
    (hcons : ∀ v rest rest', f rest = f rest' → f (v :: rest) = f (v :: rest'))
    (table : List Value) : f (table.filter (!other ·)) = f table := by
  induction table with
  | nil => rfl
  | cons v rest ih =>
      rw [List.filter_cons]
      -- What is passed over is left out or has no say; what is not is in front of the same rest.
      cases hv : other v with
      | true => exact ih.trans (hother v rest hv).symm
      | false => exact hcons v _ _ ih

/-- Records with another id are passed over in the search for one. -/
theorem findRecord_filter (id : Value) (table : List Value) :
    findRecord id (table.filter (!·.isOther "id" [id])) = findRecord id table := by
  apply filter_passedOver
  · intro v rest hv
    obtain ⟨r, rfl, hother⟩ := isOther_iff.mp hv
    cases hnull : id.isNull with
    | true =>
        -- Without an id nothing is searched for.
        cases rest <;> simp only [findRecord, hnull, if_true]
    | false =>
        rw [findRecord, hnull, recordOf_eq_ok_iff.mpr rfl, ok_bind, hother]
        simp only [Bool.false_eq_true, if_false]
  · intro v rest rest' h
    simp only [findRecord, h]

/-- Steps of other forms are passed over. -/
theorem stepsOf_filter (formId : Int) (table : List Value) :
    stepsOf formId (table.filter (!·.isOther "form_id" [.int formId])) = stepsOf formId table := by
  apply filter_passedOver
  · intro v rest hv
    obtain ⟨r, rfl, hother⟩ := isOther_iff.mp hv
    rw [stepsOf, recordOf_eq_ok_iff.mpr rfl, ok_bind, hother]
    exact bind_pure (stepsOf formId rest)
  · intro v rest rest' h
    simp only [stepsOf, h]

/-- With several instances an answer belongs to the instance that it names. -/
theorem belongs_of_several {t : FormTables} (ht : 2 ≤ t.instances.length) (id : Value) (r : Record) :
    t.belongs id r = (Fields.get r "instance_id").same id := by
  have hone : (t.instances.length == 1) = false := by
    rw [beq_eq_false_iff_ne]
    omega
  rw [belongs, hone, Bool.false_and, Bool.or_false]

/-- With several instances the answers of all others are passed over, read or not. -/
theorem answersOf_filter {t : FormTables} (ht : 2 ≤ t.instances.length) (id : Value)
    (table : List Value) :
    t.answersOf id (table.filter (!·.isOther "instance_id" [id])) = t.answersOf id table := by
  apply filter_passedOver
  · intro v rest hv
    obtain ⟨r, rfl, hother⟩ := isOther_iff.mp hv
    -- An answer of another instance is not read, so it need not fit.
    rw [answersOf, recordOf_eq_ok_iff.mpr rfl, ok_bind, belongs_of_several ht, hother]
    exact if_neg Bool.false_ne_true
  · intro v rest rest' h
    simp only [answersOf, h]

/-! ## Keyed tables -/

/-- The part of a keyed table that stands below some keys. -/
def keyedTo (keys : List Value) (table : Keyed) : Keyed :=
  table.filter fun p => keys.any fun key => (Value.scalar p.1).same key

/-- Below one of the keys is the same as in the whole table. -/
theorem below_keyedTo {keys : List Value} {key : Value} (hkey : key ∈ keys) (table : Keyed) :
    below (keyedTo keys table) key = below table key := by
  have hboth : ∀ p : Scalar × Record,
      ((Value.scalar p.1).same key && keys.any fun key => (Value.scalar p.1).same key) =
        (Value.scalar p.1).same key := by
    intro p
    cases hsame : (Value.scalar p.1).same key with
    | false => rfl
    | true => exact List.any_eq_true.mpr ⟨key, hkey, hsame⟩
  rw [below, keyedTo, List.filter_filter, below]
  simp only [hboth]

/-- A record is a part of others if it can be filed, but under none of the keys. -/
theorem isOtherPart_iff {field : String} {keys : List Value} {v : Value} :
    v.isOtherPart field keys = true ↔ ∃ r k, v = .object r ∧ (Fields.get r field).key? = some k ∧
      (keys.any fun key => (Fields.get r field).same key) = false := by
  cases v with
  | object r =>
      cases hk : (Fields.get r field).key? <;>
        simp [Value.isOtherPart, Value.isOther, hk]
  | _ => simp [Value.isOtherPart]

theorem keyedTo_cons (keys : List Value) (k : Scalar) (r : Record) (table : Keyed) :
    keyedTo keys ((k, r) :: table) =
      if keys.any fun key => (Value.scalar k).same key then (k, r) :: keyedTo keys table
      else keyedTo keys table := List.filter_cons

/-- Keying a table without the parts of others gives what the whole table has below the keys. -/
theorem keyed_filter (field : String) (keys : List Value) (table : List Value) :
    keyed field (table.filter (!·.isOtherPart field keys)) =
      (keyed field table).map (keyedTo keys) := by
  induction table with
  | nil => rfl
  | cons v rest ih =>
      rw [List.filter_cons]
      cases hv : v.isOtherPart field keys with
      | true =>
          obtain ⟨r, k, rfl, hk, hnone⟩ := isOtherPart_iff.mp hv
          rw [Value.eq_scalar_of_key? hk] at hnone
          rw [keyed_cons hk, Bool.not_true, if_neg Bool.false_ne_true, ih]
          cases keyed field rest with
          | error e => rfl
          | ok others => simp only [Except.map, keyedTo_cons, hnone, Bool.false_eq_true, if_false]
      | false =>
          rw [Bool.not_false, if_pos rfl]
          cases v with
          | object r =>
              cases hk : (Fields.get r field).key? with
              -- A record that cannot be filed is not left out, so keying fails with it in both
              -- tables.
              | none => rw [keyed_cons_error hk, keyed_cons_error hk]; rfl
              | some k =>
                  -- The record is kept, so one of the keys is its own.
                  have hsome : (keys.any fun key => (Value.scalar k).same key) = true := by
                    rw [← Value.eq_scalar_of_key? hk]
                    by_contra hnone
                    rw [Bool.not_eq_true] at hnone
                    rw [isOtherPart_iff.mpr ⟨r, k, rfl, hk, hnone⟩] at hv
                    cases hv
                  rw [keyed_cons hk, keyed_cons hk, ih]
                  cases keyed field rest with
                  | error e => rfl
                  | ok others => simp only [Except.map, keyedTo_cons, hsome, if_true]
          | _ => rfl

/-- What stands below some keys is the same in two tables that have the same parts with these
    keys; if one of them can be keyed, so can the other. -/
theorem keyed_of_filter_eq {field : String} {keys : List Value} {table table' : List Value}
    {k : Keyed} (hk : keyed field table = .ok k)
    (hsame : table.filter (!·.isOtherPart field keys) = table'.filter (!·.isOtherPart field keys)) :
    ∃ k', keyed field table' = .ok k' ∧ ∀ key ∈ keys, below k' key = below k key := by
  have hmap := keyed_filter field keys table'
  rw [← hsame, keyed_filter, hk] at hmap
  cases hk' : keyed field table' with
  | error e =>
      rw [hk'] at hmap
      cases hmap
  | ok k' =>
      rw [hk'] at hmap
      -- Both tables have the same parts below the keys, and these are all that is looked up.
      have hparts : keyedTo keys k = keyedTo keys k' := Except.ok.inj hmap
      refine ⟨k', rfl, fun key hkey => ?_⟩
      rw [← below_keyedTo hkey k', ← hparts, below_keyedTo hkey]

/-! ## Parts -/

/-- Keyed tables in which the same records stand below the keys of a scope. -/
structure Parts.Alike (c : Scope) (p p' : Parts) : Prop where
  sections : ∀ key ∈ c.steps, below p'.sections key = below p.sections key
  questions : ∀ key ∈ c.sections, below p'.questions key = below p.questions key
  options : ∀ key ∈ c.questions, below p'.options key = below p.options key
  rows : ∀ key ∈ c.questions, below p'.rows key = below p.rows key

/-- Tables that are the same within a scope have parts that are alike below its keys. -/
theorem parts_of_within_eq {t t' : FormTables} {c : Scope} {p : Parts} (hp : t.parts = .ok p)
    (hsame : t.within c = t'.within c) : ∃ p', t'.parts = .ok p' ∧ Parts.Alike c p p' := by
  obtain ⟨h1, h2, h3, h4⟩ := parts_eq_ok_iff.mp hp
  obtain ⟨sections, hs, hsections⟩ := keyed_of_filter_eq h1 (congrArg FormTables.sections hsame)
  obtain ⟨questions, hq, hquestions⟩ :=
    keyed_of_filter_eq h2 (congrArg FormTables.questions hsame)
  obtain ⟨options, ho, hoptions⟩ := keyed_of_filter_eq h3 (congrArg FormTables.options hsame)
  obtain ⟨rows, hr, hrows⟩ := keyed_of_filter_eq h4 (congrArg FormTables.rows hsame)
  exact ⟨⟨sections, questions, options, rows⟩, parts_eq_ok_iff.mpr ⟨hs, hq, ho, hr⟩,
    hsections, hquestions, hoptions, hrows⟩

/-! ## The tree -/

/-- A question is read alike if its id is a key of the scope. -/
theorem questionNode_congr {c : Scope} {p p' : Parts} (hp : Parts.Alike c p p') {r : Record}
    (hid : Fields.get r "id" ∈ c.questions) : questionNode p' r = questionNode p r := by
  simp only [questionNode, hp.options _ hid, hp.rows _ hid]

/-- A section is read alike if the ids of its questions are keys of the scope. -/
theorem sectionNode_congr {c : Scope} {p p' : Parts} (hp : Parts.Alike c p p') {r : Record}
    {n : SectionNode} (hn : sectionNode p r = .ok n) (hid : .int n.header.id ∈ c.sections)
    (hquestions : ∀ rs, below p.questions (.int n.header.id) = .ok rs →
      ∀ r ∈ rs, Fields.get r "id" ∈ c.questions) :
    sectionNode p' r = .ok n := by
  simp only [sectionNode, bind_eq_ok_iff, pure_eq_ok_iff] at hn ⊢
  obtain ⟨header, hheader, rs, hrs, questions, hq, rfl⟩ := hn
  refine ⟨header, hheader, rs, (hp.questions _ hid).trans hrs, questions, ?_, rfl⟩
  exact mapM_ok_congr hq fun r hr q _ h =>
    (questionNode_congr hp (hquestions rs hrs r hr)).trans h

/-- A step is read alike if the ids of its sections and of their questions are keys of the
    scope. -/
theorem stepNode_congr {c : Scope} {p p' : Parts} (hp : Parts.Alike c p p') {r : Record}
    {n : StepNode} (hn : stepNode p r = .ok n) (hid : .int n.step.id ∈ c.steps)
    (hsections : ∀ m ∈ n.sections, .int m.header.id ∈ c.sections)
    (hquestions : ∀ m ∈ n.sections, ∀ rs, below p.questions (.int m.header.id) = .ok rs →
      ∀ r ∈ rs, Fields.get r "id" ∈ c.questions) :
    stepNode p' r = .ok n := by
  simp only [stepNode, bind_eq_ok_iff, pure_eq_ok_iff] at hn ⊢
  obtain ⟨step, hstep, rs, hrs, sections, hs, rfl⟩ := hn
  refine ⟨step, hstep, rs, (hp.sections _ hid).trans hrs, sections, ?_, rfl⟩
  exact mapM_ok_congr hs fun r _ m hm h =>
    sectionNode_congr hp h (hsections m hm) (hquestions m hm)

/-- The ids of the questions below a section of the snapshot are keys of its scope. -/
theorem questionId_mem_scope {t : FormTables} (id : Value) {s : Snapshot} {questions : Keyed}
    (hk : keyed "section_id" t.questions = .ok questions) {m : SectionNode} (hm : m ∈ s.sections)
    {rs : List Record} (hrs : below questions (.int m.header.id) = .ok rs) {r : Record}
    (hr : r ∈ rs) : Fields.get r "id" ∈ (t.scope id s).questions := by
  obtain ⟨hmem, hsame⟩ := mem_below hk hrs hr
  refine List.mem_filterMap.mpr ⟨.object r, hmem, ?_⟩
  have hany : (s.sections.any fun n => (Fields.get r "section_id").same (.int n.header.id)) =
      true := List.any_eq_true.mpr ⟨m, hm, hsame⟩
  rw [questionId?, if_pos hany]

/-- The tree of a form is the same in tables that are the same within its scope. -/
theorem tree_of_within_eq {t t' : FormTables} {id : Value} {s : Snapshot}
    (ht : t.tree s.form.id = .ok s.steps)
    (hsame : t.within (t.scope id s) = t'.within (t.scope id s)) :
    t'.tree s.form.id = .ok s.steps := by
  simp only [tree, bind_eq_ok_iff] at ht ⊢
  obtain ⟨p, hparts, steps, hsteps, ordered, hordered, hnodes⟩ := ht
  obtain ⟨p', hparts', hp⟩ := parts_of_within_eq hparts hsame
  have hsteps' : stepsOf s.form.id t'.steps = .ok steps := by
    rw [← hsteps, ← stepsOf_filter s.form.id t.steps, ← stepsOf_filter s.form.id t'.steps]
    exact congrArg (stepsOf s.form.id ·.steps) hsame.symm
  refine ⟨p', hparts', steps, hsteps', ordered, hordered, ?_⟩
  -- The steps are the same records, and each is read alike from the other parts.
  refine mapM_ok_congr hnodes fun r _ n hn h => ?_
  have hsections : ∀ m ∈ n.sections, m ∈ s.sections := fun m hm =>
    List.mem_flatMap.mpr ⟨n, hn, hm⟩
  refine stepNode_congr hp h (List.mem_map_of_mem hn) ?_ ?_
  · exact fun m hm => List.mem_map_of_mem (hsections m hm)
  · intro m hm rs hrs r hr
    exact questionId_mem_scope id (parts_eq_ok_iff.mp hparts).2.1 (hsections m hm) hrs hr

/-! ## Instances -/

/-- The record of the form is the same if those of the instance and of its form are. -/
theorem formRecord_of_filter_eq {t t' : FormTables} {id : Value}
    (hinstances : t.instances.filter (!·.isOther "id" [id]) =
      t'.instances.filter (!·.isOther "id" [id]))
    (hforms : t.forms.filter (!·.isOther "id" [t.formKey id]) =
      t'.forms.filter (!·.isOther "id" [t.formKey id])) :
    t'.formRecord id = t.formRecord id := by
  have hfind : findRecord id t'.instances = findRecord id t.instances := by
    rw [← findRecord_filter id t'.instances, ← hinstances, findRecord_filter]
  have hform : findRecord (t.formKey id) t'.forms = findRecord (t.formKey id) t.forms := by
    rw [← findRecord_filter _ t'.forms, ← hforms, findRecord_filter]
  rw [formRecord, formRecord, hfind]
  cases hr : findRecord id t.instances with
  | error e => rfl
  | ok found =>
      cases found with
      | none => rfl
      | some r =>
          simp only [formKey, hr] at hform
          simp only [ok_bind, hform]

/-- Among several instances one is loaded, and its document planned, from its own data: all
    records outside of its scope can be others, more or fewer. -/
theorem load_ignores_other_records {t t' : FormTables} {id : Value} {s : Snapshot}
    (hload : t.load id = .ok s) (ht : 2 ≤ t.instances.length) (ht' : 2 ≤ t'.instances.length)
    (hsame : t.within (t.scope id s) = t'.within (t.scope id s)) :
    t'.load id = .ok s ∧
      ∀ maker : DocumentMaker,
        (liftM (t'.load id) >>= maker.plan : Making DocumentPlan) =
          (liftM (t.load id) >>= maker.plan) := by
  -- The plan is made from the snapshot alone.
  suffices h : t'.load id = .ok s from ⟨h, fun maker => by rw [h, hload]⟩
  simp only [load, bind_eq_ok_iff, pure_eq_ok_iff] at hload ⊢
  obtain ⟨record, hrecord, form, hform, steps, hsteps, answers, hanswers, number, hnumber, rfl⟩ :=
    hload
  refine ⟨record, ?_, form, hform, steps, ?_, answers, ?_, number, hnumber, rfl⟩
  · rw [← hrecord]
    exact formRecord_of_filter_eq (congrArg FormTables.instances hsame)
      (congrArg FormTables.forms hsame)
  · exact tree_of_within_eq (s := ⟨number, form, steps, answers⟩) hsteps hsame
  · have hbelongs : ∀ r, t'.belongs id r = t.belongs id r := fun r => by
      rw [belongs_of_several ht', belongs_of_several ht]
    rw [← hanswers, answersOf_congr hbelongs, ← answersOf_filter ht id t'.answers,
      ← answersOf_filter ht id t.answers]
    exact congrArg (t.answersOf id ·.answers) hsame.symm

/-! ### An instance beside another one -/

/-- An instance of a form with one question, beside the records of others. -/
def besides (others : FormTables) : FormTables where
  instances := recordWith [("id", .int 1), ("form_id", .int 1)] :: others.instances
  forms := recordWith [("id", .int 1)] :: others.forms
  steps := recordWith [("id", .int 1), ("form_id", .int 1)] :: others.steps
  sections := recordWith [("id", .int 1), ("step_id", .int 1)] :: others.sections
  questions := recordWith [("id", .int 1), ("section_id", .int 1)] :: others.questions
  options := others.options
  rows := others.rows
  answers := recordWith [("instance_id", .int 1), ("question_id", .int 1),
    ("value_text", .text "fine")] :: others.answers

/-- Another instance of the same form, with its answer. -/
def classmate : FormTables where
  instances := [recordWith [("id", .int 2), ("form_id", .int 1)]]
  forms := []
  steps := []
  sections := []
  questions := []
  options := []
  rows := []
  answers := [recordWith [("instance_id", .int 2), ("question_id", .int 1),
    ("value_text", .text "late")]]

/-- An instance of another form. None of its parts could be read, its answers could not either, and
    one of them names no instance. -/
def stray : FormTables where
  instances := [recordWith [("id", .text "x"), ("form_id", .null)]]
  forms := [recordWith [("id", .text "y"), ("name", .int 0)]]
  steps := [recordWith [("form_id", .text "y")]]
  sections := [recordWith [("step_id", .text "z")]]
  questions := [recordWith []]
  options := [recordWith [("question_id", .int 7)]]
  rows := [recordWith [("question_id", .null)]]
  answers := [recordWith [("instance_id", .text "x")], recordWith [("instance_id", .null),
    ("question_id", .text "?")]]

/-- The instance among others, as it is loaded. -/
def besidesSnapshot : Snapshot where
  instanceId := 1
  form := { (default : Form) with id := 1 }
  steps :=
    let header : Section := { (default : Section) with
      id := 1, stepId := some 1, modeText := some SectionMode.normal.word }
    let question : Question := { (default : Question) with
      id := 1, sectionId := some 1, kind := .shortText }
    [⟨{ (default : Step) with id := 1 }, [⟨header, [⟨question, [], []⟩]⟩]⟩]
  answers := [{ (default : Answer) with questionId := 1, valueText := some "fine" }]

/-- The instance is the same beside a classmate and beside records that could not even be read. -/
theorem load_ignores_stray :
    let t := besides classmate
    let t' := besides stray
    t.load (.int 1) = .ok besidesSnapshot ∧ 2 ≤ t.instances.length ∧ 2 ≤ t'.instances.length ∧
      t.within (t.scope (.int 1) besidesSnapshot) = t'.within (t.scope (.int 1) besidesSnapshot) ∧
        t'.load (.int 1) = .ok besidesSnapshot := by
  intro t t'
  have hload : t.load (.int 1) = .ok besidesSnapshot := by with_unfolding_all rfl
  have hsame : t.within (t.scope (.int 1) besidesSnapshot) =
      t'.within (t.scope (.int 1) besidesSnapshot) := rfl
  exact ⟨hload, by decide, by decide, hsame,
    (load_ignores_other_records hload (by decide) (by decide) hsame).1⟩

end FormTables

end FormPress
