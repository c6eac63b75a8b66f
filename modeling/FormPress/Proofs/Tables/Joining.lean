/-
  FormPress.Proofs.Tables.Joining

  What loading does with tables of any values.  Below a part are all records whose
  key is equal to the number that was read as the id of the part, each once; below a
  question those whose key is equal to its id as it is given.  An id that is not a
  text is equal to its number, so nothing is lost below it, and parts none of whose
  order numbers and ids is a text stand in increasing order (`load_joins`).  With
  texts both go wrong (`load_spelled_numbers`).
-/
import FormPress.Proofs.Tables.Assembly

namespace FormPress

namespace FormTables

/-! ## Looking up by any key -/

/-- The records of a table whose field is equal to a key. -/
def recordsAt (field : String) (key : Value) (table : List Value) : List Record :=
  (records table).filter fun r => (Fields.get r field).same key

/-- A value that is equal to a whole number has the same records as the number. -/
theorem recordsAt_whole {field : String} {key : Value} {n : Int} (h : key.whole? = some n)
    (table : List Value) : recordsAt field key table = recordsAt field (.int n) table := by
  simp only [recordsAt, Value.same_of_whole h]

/-- A record is among those with a key if its field is equal to the key. -/
theorem recordsAt_cons (field : String) (key : Value) (r : Record) (rest : List Value) :
    recordsAt field key (.object r :: rest) =
      if (Fields.get r field).same key then r :: recordsAt field key rest
      else recordsAt field key rest := by
  rw [recordsAt, records, List.filterMap_cons, List.filter_cons]
  rfl

/-- What is filed under a key are the records whose field is equal to it. -/
theorem keyed_filter_same {field : String} {table : List Value} {k : Keyed}
    (h : keyed field table = .ok k) (key : Value) :
    (k.filter fun p => (Value.scalar p.1).same key).map (·.2) = recordsAt field key table := by
  induction table generalizing k with
  | nil =>
      cases h
      rfl
  | cons v rest ih =>
      obtain ⟨r, above, others, rfl, habove, hothers, rfl⟩ := keyed_cons_eq_ok_iff.mp h
      -- The key that a record is filed under is what its field holds.
      rw [recordsAt_cons, Value.eq_scalar_of_key? habove, List.filter_cons, ← ih hothers]
      split <;> rfl

/-- What is below a key is sorted out of the records whose field is equal to it. -/
theorem below_eq {field : String} {table : List Value} {k : Keyed} (h : keyed field table = .ok k)
    (key : Value) : below k key = Record.sorted (recordsAt field key table) := by
  rw [below, keyed_filter_same h]

/-- The steps of a form are the records whose field is equal to its number. -/
theorem stepsOf_eq_recordsAt {form : Int} {table : List Value} {rs : List Record}
    (h : stepsOf form table = .ok rs) : rs = recordsAt "form_id" (.int form) table := by
  induction table generalizing rs with
  | nil =>
      cases h
      rfl
  | cons v rest ih =>
      simp only [stepsOf, bind_eq_ok_iff, pure_eq_ok_iff] at h
      obtain ⟨r, hr, others, hothers, rfl⟩ := h
      obtain rfl := recordOf_eq_ok_iff.mp hr
      -- Each record is kept or passed over as its key says, in both.
      rw [recordsAt_cons, ih hothers]

/-- A record that is found is one of the table. -/
theorem findRecord_mem {id : Value} {table : List Value} {r : Record}
    (h : findRecord id table = .ok (some r)) : r ∈ records table := by
  induction table with
  | nil => cases h
  | cons v rest ih =>
      rw [findRecord] at h
      split at h
      · cases h
      · obtain ⟨r', hr', hfound⟩ := bind_eq_ok_iff.mp h
        obtain rfl := recordOf_eq_ok_iff.mp hr'
        -- It is the first record, or it is found behind that.
        split at hfound
        · cases hfound
          exact mem_records.mpr (List.mem_cons_self ..)
        · exact mem_records.mpr (List.mem_cons_of_mem _ (mem_records.mp (ih hfound)))

/-! ## What is below a record -/

/-- The parts below a record with some id, looked up by a key. -/
structure Below {α : Type} (From : Record → α → Prop) (place : α → Int ×ₗ Int) (field : String)
    (id key : Value) (table : List Value) (parts : List α) : Prop where
  /-- the parts are those of the records with the key, each record once -/
  exact : EachOnce From (recordsAt field key table) parts
  /-- these are the records with the id, unless that is a text -/
  kept : id.isSpelled = false → recordsAt field id table = recordsAt field key table
  /-- the parts stand in order, unless an order number or an id among them is a text -/
  ordered : (∀ r ∈ recordsAt field key table, r.isSpelled = false) →
    (parts.map place).Pairwise (· ≤ ·)

section

variable {α : Type} {From : Record → α → Prop} {place : α → Int ×ₗ Int} {field : String}
  {id key : Value} {table : List Value} {rs : List Record} {parts : List α}

/-- Reading sorted records gives what is below a record. -/
theorem Below.of_sorted (hsorted : Record.sorted (recordsAt field key table) = .ok rs)
    (hparts : List.Forall₂ From rs parts)
    (hplace : ∀ r a, From r a → r.isSpelled = false → r.StandsAt (place a))
    (hkept : id.isSpelled = false → recordsAt field id table = recordsAt field key table) :
    Below From place field id key table parts where
  exact := ⟨rs, Record.sorted_perm hsorted, hparts⟩
  kept := hkept
  ordered hnumbers := by
    have hperm := Record.sorted_perm hsorted
    have hstands : ∀ r ∈ rs, ∀ a, From r a → r.StandsAt (place a) := fun r hr a ha =>
      hplace r a ha (hnumbers r (hperm.mem_iff.mp hr))
    -- Every record has a part, so each stands at a place.
    have hworth : ∀ r ∈ recordsAt field key table, r.StandsAt r.worth := by
      intro r hr
      obtain ⟨a, -, ha⟩ := exists_of_forall₂ hparts (hperm.mem_iff.mpr hr)
      have hat := hstands r (hperm.mem_iff.mpr hr) a ha
      rwa [← hat.worth_eq] at hat
    -- The parts have the places of the records, and these are sorted by them.
    rw [← map_eq_of_forall₂ hparts fun r hr a ha => (hstands r hr a ha).worth_eq,
      List.pairwise_map, Record.eq_of_sorted hsorted]
    exact Record.pairwise_mergeSort hworth

end

/-! ## The tree of any tables -/

/-- A question with what is below its record; options and rows are looked up by the id as it is
    given. -/
structure QuestionOf (t : FormTables) (r : Record) (n : QuestionNode) : Prop where
  question : PartKind.question.Reads r n.question
  options : Below PartKind.option.Reads PartKind.option.place "question_id" (Fields.get r "id")
    (Fields.get r "id") t.options n.options
  rows : Below PartKind.row.Reads PartKind.row.place "question_id" (Fields.get r "id")
    (Fields.get r "id") t.rows n.rows

/-- A section with what is below its record; questions are looked up by the number read as its
    id. -/
structure SectionOf (t : FormTables) (r : Record) (n : SectionNode) : Prop where
  header : PartKind.header.Reads r n.header
  questions : Below t.QuestionOf (fun m => PartKind.question.place m.question) "section_id"
    (Fields.get r "id") (.int n.header.id) t.questions n.questions

/-- A step with what is below its record; sections are looked up by the number read as its id. -/
structure StepOf (t : FormTables) (r : Record) (n : StepNode) : Prop where
  step : PartKind.step.Reads r n.step
  sections : Below t.SectionOf (fun m => PartKind.header.place m.header) "step_id"
    (Fields.get r "id") (.int n.step.id) t.sections n.sections

section

variable {t : FormTables} {p : Parts} {r : Record}

/-- A question that is read has what is below its record. -/
theorem QuestionOf.of_read (hp : t.parts = .ok p) {n : QuestionNode}
    (h : questionNode p r = .ok n) : t.QuestionOf r n := by
  obtain ⟨-, -, hkeyedOptions, hkeyedRows⟩ := parts_eq_ok_iff.mp hp
  simp only [questionNode, bind_eq_ok_iff, pure_eq_ok_iff, below_eq hkeyedOptions,
    below_eq hkeyedRows] at h
  obtain ⟨question, hquestion, _, hsorted, options, hoptions, _, hsorted', rows, hrows, rfl⟩ := h
  exact {
    question := hquestion
    options := .of_sorted hsorted (mapM_eq_ok_iff.mp hoptions)
      (fun _ _ => PartKind.Reads.standsAt) fun _ => rfl
    rows := .of_sorted hsorted' (mapM_eq_ok_iff.mp hrows)
      (fun _ _ => PartKind.Reads.standsAt) fun _ => rfl }

/-- A section that is read has what is below its record. -/
theorem SectionOf.of_read (hp : t.parts = .ok p) {n : SectionNode}
    (h : sectionNode p r = .ok n) : t.SectionOf r n := by
  obtain ⟨-, hkeyed, -, -⟩ := parts_eq_ok_iff.mp hp
  simp only [sectionNode, bind_eq_ok_iff, pure_eq_ok_iff, below_eq hkeyed] at h
  obtain ⟨header, hheader, _, hsorted, questions, hquestions, rfl⟩ := h
  have hreads : PartKind.header.Reads r header := hheader
  refine ⟨hreads, .of_sorted hsorted ?_ (fun _ _ hm => hm.question.standsAt) fun hid => ?_⟩
  · exact (mapM_eq_ok_iff.mp hquestions).imp fun _ _ => QuestionOf.of_read hp
  · -- An id that is no text is equal to the number that it is read as.
    exact recordsAt_whole (hreads.whole?_id hid) t.questions

/-- A step that is read has what is below its record. -/
theorem StepOf.of_read (hp : t.parts = .ok p) {n : StepNode} (h : stepNode p r = .ok n) :
    t.StepOf r n := by
  obtain ⟨hkeyed, -, -, -⟩ := parts_eq_ok_iff.mp hp
  simp only [stepNode, bind_eq_ok_iff, pure_eq_ok_iff, below_eq hkeyed] at h
  obtain ⟨step, hstep, _, hsorted, sections, hsections, rfl⟩ := h
  have hreads : PartKind.step.Reads r step := hstep
  refine ⟨hreads, .of_sorted hsorted ?_ (fun _ _ hm => hm.header.standsAt) fun hid => ?_⟩
  · exact (mapM_eq_ok_iff.mp hsections).imp fun _ _ => SectionOf.of_read hp
  · exact recordsAt_whole (hreads.whole?_id hid) t.sections

theorem formRecord_mem {id : Value} (h : t.formRecord id = .ok r) : r ∈ records t.forms := by
  simp only [formRecord, bind_eq_ok_iff] at h
  obtain ⟨found, -, h⟩ := h
  cases found with
  | none => cases h
  | some r' =>
      obtain ⟨form, hform, h⟩ := bind_eq_ok_iff.mp h
      cases form with
      | none => cases h
      | some r'' =>
          cases h
          exact findRecord_mem hform

end

/-- Whatever is loaded, out of tables of any values: below each part are exactly the records whose
    key is equal to the number read as the id of the part, below a question those whose key is equal
    to its id as it is given, each once. Unless the id is a text these are the records whose key is
    equal to it, so none is lost; and unless an order number or an id among them is a text, the
    parts stand in the order of their order numbers and ids. -/
theorem load_joins (t : FormTables) (id : Value) (s : Snapshot) (h : t.load id = .ok s) :
    ∃ r ∈ records t.forms, readRecord .form Form.read r = .ok s.form ∧
      Below t.StepOf (fun n => PartKind.step.place n.step) "form_id" (Fields.get r "id")
        (.int s.form.id) t.steps s.steps := by
  simp only [load, bind_eq_ok_iff, pure_eq_ok_iff] at h
  obtain ⟨r, hr, form, hform, steps, htree, answers, -, number, -, rfl⟩ := h
  simp only [tree, bind_eq_ok_iff] at htree
  obtain ⟨p, hp, rs, hrs, ordered, hsorted, hsteps⟩ := htree
  rw [stepsOf_eq_recordsAt hrs] at hsorted
  refine ⟨r, formRecord_mem hr, hform, .of_sorted hsorted ?_ (fun _ _ hn => hn.step.standsAt) ?_⟩
  · exact (mapM_eq_ok_iff.mp hsteps).imp fun _ _ => StepOf.of_read hp
  · intro hid
    have hnumber := Form.id_of_read (fits_of_readRecord hform)
    exact recordsAt_whole (Record.whole?_of_required hnumber hid) t.steps

/-- A form with a step whose id is a truth value, of which both sections have the key one in
    different spellings, and with a question whose id is a text. -/
def mixed : FormTables where
  instances := [recordWith [("id", .int 1), ("form_id", .int 1)]]
  forms := [recordWith [("id", .int 1)]]
  steps := [recordWith [("id", .bool true), ("form_id", .int 1)]]
  sections := [recordWith [("id", .int 4), ("step_id", .bool true), ("sort_order", .int 2)],
    recordWith [("id", .int 5), ("step_id", .int 1), ("sort_order", .bool true)]]
  questions := [recordWith [("id", .text "7"), ("section_id", .int 4)]]
  options := [recordWith [("id", .int 1), ("question_id", .text "7")]]
  rows := []
  answers := []

theorem load_joins_mixed : ∃ s, mixed.load (.int 1) = .ok s ∧
    ∃ r ∈ records mixed.forms, readRecord .form Form.read r = .ok s.form ∧
      Below mixed.StepOf (fun n => PartKind.step.place n.step) "form_id" (Fields.get r "id")
        (.int s.form.id) mixed.steps s.steps := by
  have hload : mixed.load (.int 1) = .ok _ :=
    -- The sections have order numbers two and one, and are turned round.
    load_of_step rfl rfl rfl rfl rfl (Record.sorted_pair (o := .lt) rfl)
      (by with_unfolding_all rfl) rfl rfl
  exact ⟨_, hload, load_joins mixed (.int 1) _ hload⟩

/-! ## Numbers given as texts -/

/-- Two sections whose order numbers are texts. -/
def spelledOrder : FormTables where
  instances := [recordWith [("id", .int 1), ("form_id", .int 1)]]
  forms := [recordWith [("id", .int 1)]]
  steps := [recordWith [("id", .int 1), ("form_id", .int 1)]]
  sections := [recordWith [("id", .int 1), ("step_id", .int 1), ("sort_order", .text "10")],
    recordWith [("id", .int 2), ("step_id", .int 1), ("sort_order", .text "9")]]
  questions := []
  options := []
  rows := []
  answers := []

/-- A step whose id is a text, with a section whose key is the same text. -/
def spelledId : FormTables where
  instances := [recordWith [("id", .int 1), ("form_id", .int 1)]]
  forms := [recordWith [("id", .int 1)]]
  steps := [recordWith [("id", .text "1"), ("form_id", .int 1)]]
  sections := [recordWith [("id", .int 1), ("step_id", .text "1")]]
  questions := []
  options := []
  rows := []
  answers := []

/-- Sections whose order numbers are texts stand in the wrong order, and a section whose key is the
    id of its step as that is given, a text, is missing below it. -/
theorem load_spelled_numbers :
    (∃ s, spelledOrder.load (.int 1) = .ok s ∧
      ¬ ∀ n ∈ s.steps, (n.sections.map fun m => PartKind.header.place m.header).Pairwise (· ≤ ·)) ∧
    ∃ s, spelledId.load (.int 1) = .ok s ∧
      ∃ r ∈ records spelledId.steps, ∃ n ∈ s.steps, PartKind.step.Reads r n.step ∧
        ∃ c ∈ records spelledId.sections, (Fields.get c "step_id").same (Fields.get r "id") = true ∧
          ¬ ∃ m ∈ n.sections, PartKind.header.Reads c m.header := by
  constructor
  · -- As texts, ten comes before nine.
    obtain ⟨s, hs, hplaces⟩ : ∃ s, spelledOrder.load (.int 1) = .ok s ∧
        (s.steps.map fun n => n.sections.map fun m => PartKind.header.place m.header) =
          [[toLex (10, 1), toLex (9, 2)]] :=
      ⟨_, load_of_step rfl rfl rfl rfl rfl (Record.sorted_pair (o := .gt) rfl)
        (by with_unfolding_all rfl) rfl rfl, rfl⟩
    refine ⟨s, hs, fun hall => ?_⟩
    obtain ⟨n, hn, hsections⟩ := List.map_eq_singleton_iff.mp hplaces
    have hordered := hall n (hn ▸ List.mem_singleton_self n)
    rw [hsections] at hordered
    exact absurd hordered (by decide)
  · -- The text is read as the number one, to which the same text as a key is not equal.
    obtain ⟨s, hs, hparts⟩ : ∃ s, spelledId.load (.int 1) = .ok s ∧
        s.steps.map (fun n => (n.step, n.sections.length)) = [(⟨1, "", none, 0⟩, 0)] :=
      ⟨_, by with_unfolding_all rfl, rfl⟩
    obtain ⟨n, hn, hempty⟩ := List.map_eq_singleton_iff.mp hparts
    obtain ⟨hstep, hlength⟩ := Prod.mk.inj hempty
    refine ⟨s, hs, _, List.mem_singleton_self _, n, hn ▸ List.mem_singleton_self n, ?_, _,
      List.mem_singleton_self _, by decide, ?_⟩
    · rw [hstep, PartKind.Reads]
      rfl
    · rw [List.length_eq_zero_iff.mp hlength]
      rintro ⟨m, hm, -⟩
      cases hm

end FormTables

end FormPress
