/-
  FormPress.Proofs.Tables.Assembly

  The tree of a form is assembled exactly.  Every record of the form is read
  once, below the record whose id it has as its key, and nothing else is; what
  stands below one record is in increasing order; and how the tables are arranged
  does not matter (`load_assembles_tree`).
-/
import FormPress.Proofs.Tables.Tree

namespace FormPress

/-- The parts come from the records, each record once. -/
def EachOnce {α : Type} (From : Record → α → Prop) (rs : List Record) (parts : List α) : Prop :=
  ∃ ordered : List Record, ordered.Perm rs ∧ List.Forall₂ From ordered parts

/-! ### Parts of a snapshot with the ids of what they are below -/

namespace Snapshot

/-- The sections, each with the id of its step. -/
def sectionsBelow (s : Snapshot) : List (Int × Section) :=
  s.steps.flatMap fun n => n.sections.map fun m => (n.step.id, m.header)

/-- The questions, each with the id of its section. -/
def questionsBelow (s : Snapshot) : List (Int × Question) :=
  s.sections.flatMap fun n => n.questions.map fun m => (n.header.id, m.question)

/-- The options, each with the id of its question. -/
def optionsBelow (s : Snapshot) : List (Int × QuestionOption) :=
  s.questions.flatMap fun n => n.options.map fun o => (n.question.id, o)

/-- The rows, each with the id of its question. -/
def rowsBelow (s : Snapshot) : List (Int × QuestionRow) :=
  s.questions.flatMap fun n => n.rows.map fun r => (n.question.id, r)

end Snapshot

namespace FormTables

/-! ## Levels of a tree -/

/-- Parts that come from records have the ids of the records, in the same order. -/
theorem ids_eq_of_forall₂ {α : Type} {From : Record → α → Prop} {id : α → Int} {rs : List Record}
    {parts : List α} (h : List.Forall₂ From rs parts)
    (hid : ∀ r ∈ rs, ∀ a, From r a → r.number? "id" = some (id a)) : ids rs = parts.map id := by
  induction h with
  | nil => rfl
  | cons hra _ ih =>
      obtain ⟨hr, hrs⟩ := List.forall_mem_cons.mp hid
      rw [ids, List.filterMap_cons, hr _ hra, List.map_cons]
      exact congrArg _ (ih hrs)

/-- Parts that come from records have their ids, in some order. -/
theorem ids_perm_of_eachOnce {α : Type} {From : Record → α → Prop} {id : α → Int}
    {rs : List Record} {parts : List α} (h : EachOnce From rs parts)
    (hid : ∀ r ∈ rs, ∀ a, From r a → r.number? "id" = some (id a)) :
    (parts.map id).Perm (ids rs) := by
  obtain ⟨ordered, hperm, hparts⟩ := h
  -- In the order in which the parts stand, the ids are the same.
  rw [← ids_eq_of_forall₂ hparts fun r hr => hid r (hperm.mem_iff.mp hr)]
  exact hperm.filterMap _

/-- The records with one of several keys are those with the first one and those with another. -/
theorem recordsWith_cons_perm {field : String} {key : Int} {keys : List Int} (hkey : key ∉ keys)
    (table : List Value) :
    (recordsWith field [key] table ++ recordsWith field keys table).Perm
      (recordsWith field (key :: keys) table) := by
  have hsplit := List.filter_append_perm (fun r => r.number? field = some key)
    (recordsWith field (key :: keys) table)
  simp only [recordsWith, List.filter_filter] at hsplit ⊢
  -- Of the records with one of the keys, some have the first one and the others do not.
  convert hsplit using 2
  · refine List.filter_congr fun r _ => ?_
    cases r.number? field <;> simp +contextual
  · refine List.filter_congr fun r _ => ?_
    cases hr : r.number? field with
    | none => rfl
    | some n =>
        by_cases hn : n = key
        · simp [hn, hkey]
        · simp [hn]

section

variable {α : Type} {From : Record → α → Prop} {names : List String} {field : String}
  {table : List Value}

/-- The children of several parents with keys of their own come from the records with one of the
    keys, each with the key of its parent. -/
theorem eachOnce_flatMap {π β : Type} {k : PartKind β} {parents : List π} {key : π → Int}
    {children : π → List α} {f : α → β} (hkeys : (parents.map key).Nodup)
    (h : ∀ p ∈ parents, Children From field (key p) table (children p))
    (hfrom : ∀ r a, From r a → k.Reads r (f a)) :
    EachOnce (k.ReadsBelow field) (recordsWith field (parents.map key) table)
      (parents.flatMap fun p => (children p).map fun a => (key p, f a)) := by
  -- The records with one of the keys are those of the first parent and those of the others.
  induction parents with
  | nil => exact ⟨[], by simp [recordsWith], .nil⟩
  | cons p parents ih =>
      obtain ⟨hnew, hrest⟩ := List.nodup_cons.mp hkeys
      obtain ⟨⟨rs, hrs, -, hparts⟩, hothers⟩ := List.forall_mem_cons.mp h
      obtain ⟨ordered, hordered, hall⟩ := ih hrest hothers
      refine ⟨rs ++ ordered, (hrs.append hordered).trans (recordsWith_cons_perm hnew table), ?_⟩
      refine List.rel_append ?_ hall
      rw [List.forall₂_map_right_iff]
      -- The records of the first parent hold its id, which is the key of the pairs.
      have hkey : ∀ r ∈ rs, r.number? field = some (key p) := by
        intro r hr
        obtain ⟨-, n, hn, hfield⟩ := mem_recordsWith.mp (hrs.mem_iff.mp hr)
        rwa [List.mem_singleton.mp hn] at hfield
      exact (List.forall₂_and_left _ _).mpr ⟨hkey, hparts⟩ |>.imp fun r a hra =>
        ⟨hra.1, hfrom r a hra.2⟩

/-- The parts of one level, if the ids of the level above are those of some records. -/
theorem level_exact {π β : Type} (k : PartKind β) {parents : List π} {key : π → Int}
    (children : π → List α) (f : α → β) {keys : List Int} (htable : IsKeyed names table)
    (hnodup : keys.Nodup) (hkeys : (parents.map key).Perm keys)
    (h : ∀ p ∈ parents, Children From field (key p) table (children p))
    (hfrom : ∀ r a, From r a → k.Reads r (f a)) :
    EachOnce (k.ReadsBelow field) (recordsWith field keys table)
        (parents.flatMap fun p => (children p).map fun a => (key p, f a)) ∧
      ((parents.flatMap children).map fun a => k.id (f a)).Perm
        (ids (recordsWith field keys table)) := by
  have hexact := eachOnce_flatMap (hkeys.nodup_iff.mpr hnodup) h hfrom
  rw [recordsWith_congr field table fun n => hkeys.mem_iff] at hexact
  refine ⟨hexact, ?_⟩
  -- A part has the id of its record, so the ids of this level are keys for the next one.
  have hid : ∀ r ∈ recordsWith field keys table, ∀ p : Int × β, k.ReadsBelow field r p →
      r.number? "id" = some (k.id p.2) := fun r hr p hp =>
    htable.id_eq (mem_recordsWith.mp hr).1 hp.2
  have hids := ids_perm_of_eachOnce hexact hid
  simpa only [List.map_flatMap, List.map_map, Function.comp_def] using hids

end

/-! ## Snapshots of tables -/

/-- A snapshot has all that the tables hold of an instance's form: of each table exactly the records
    that belong to the form, each once and below the part whose id is its key; and what is below one
    part stands in increasing order. -/
structure Assembled (t : FormTables) (i form : Int) (s : Snapshot) : Prop where
  instanceId : s.instanceId = i
  formRead : ∃ r ∈ records t.forms, r.number? "id" = some form ∧
    readRecord .form Form.read r = .ok s.form
  steps : EachOnce PartKind.step.Reads (t.stepRecords form) (s.steps.map (·.step))
  sections : EachOnce (PartKind.header.ReadsBelow "step_id") (t.sectionRecords form)
    s.sectionsBelow
  questions : EachOnce (PartKind.question.ReadsBelow "section_id") (t.questionRecords form)
    s.questionsBelow
  options : EachOnce (PartKind.option.ReadsBelow "question_id") (t.optionRecords form)
    s.optionsBelow
  rows : EachOnce (PartKind.row.ReadsBelow "question_id") (t.rowRecords form) s.rowsBelow
  stepOrder : (s.steps.map fun n => PartKind.step.place n.step).Pairwise (· < ·)
  sectionOrder : ∀ n ∈ s.steps,
    (n.sections.map fun m => PartKind.header.place m.header).Pairwise (· < ·)
  questionOrder : ∀ n ∈ s.sections,
    (n.questions.map fun m => PartKind.question.place m.question).Pairwise (· < ·)
  optionOrder : ∀ n ∈ s.questions, (n.options.map PartKind.option.place).Pairwise (· < ·)
  rowOrder : ∀ n ∈ s.questions, (n.rows.map PartKind.row.place).Pairwise (· < ·)

variable {t : FormTables} {i form : Int} {s : Snapshot}

theorem exists_step_of_mem (h : t.IsTree form s.steps) {n : StepNode} (hn : n ∈ s.steps) :
    ∃ r ∈ records t.steps, t.IsStep r n := Children.exists_record h hn

/-- Every section of a tree is read from a record of its table. -/
theorem exists_section_of_mem (h : t.IsTree form s.steps) {n : SectionNode}
    (hn : n ∈ s.sections) : ∃ r ∈ records t.sections, t.IsSection r n := by
  obtain ⟨step, hstep, hmem⟩ := List.mem_flatMap.mp hn
  obtain ⟨_, -, his⟩ := exists_step_of_mem h hstep
  exact his.sections.exists_record hmem

theorem exists_question_of_mem (h : t.IsTree form s.steps) {n : QuestionNode}
    (hn : n ∈ s.questions) : ∃ r ∈ records t.questions, t.IsQuestion r n := by
  obtain ⟨node, hnode, hmem⟩ := List.mem_flatMap.mp hn
  obtain ⟨_, -, his⟩ := exists_section_of_mem h hnode
  exact his.questions.exists_record hmem

/-- A tree has each record of the form once, level by level: the ids of one level are the keys of
    the next one. -/
theorem IsTree.assembled (h : t.IsTree form s.steps) (ht : t.WellKeyed) (hi : s.instanceId = i)
    (hform : ∃ r ∈ records t.forms, r.number? "id" = some form ∧
      readRecord .form Form.read r = .ok s.form) : t.Assembled i form s := by
  have hsteps : EachOnce PartKind.step.Reads (t.stepRecords form) (s.steps.map (·.step)) := by
    obtain ⟨rs, hrs, -, hparts⟩ := h
    exact ⟨rs, hrs, List.forall₂_map_right_iff.mpr (hparts.imp fun _ _ hn => hn.step)⟩
  -- The ids of the steps are the keys that sections are looked up by, and so on down the levels.
  have hstepIds : (s.steps.map fun n => n.step.id).Perm (ids (t.stepRecords form)) := by
    have hids := ids_perm_of_eachOnce hsteps fun r hr a ha =>
      ht.steps.id_eq (mem_recordsWith.mp hr).1 ha
    rwa [List.map_map] at hids
  obtain ⟨hsections, hsectionIds⟩ := level_exact PartKind.header StepNode.sections
    SectionNode.header ht.sections (ht.steps.ids_nodup List.filter_sublist) hstepIds
    (fun n hn => by obtain ⟨_, -, his⟩ := exists_step_of_mem h hn; exact his.sections)
    fun _ _ (hm : t.IsSection _ _) => hm.header
  obtain ⟨hquestions, hquestionIds⟩ := level_exact PartKind.question SectionNode.questions
    QuestionNode.question ht.questions (ht.sections.ids_nodup List.filter_sublist)
    hsectionIds
    (fun n hn => by obtain ⟨_, -, his⟩ := exists_section_of_mem h hn; exact his.questions)
    fun _ _ (hm : t.IsQuestion _ _) => hm.question
  obtain ⟨hoptions, -⟩ := level_exact PartKind.option QuestionNode.options (fun o => o) ht.options
    (ht.questions.ids_nodup List.filter_sublist) hquestionIds
    (fun n hn => by obtain ⟨_, -, his⟩ := exists_question_of_mem h hn; exact his.options)
    fun _ _ ho => ho
  obtain ⟨hrows, -⟩ := level_exact PartKind.row QuestionNode.rows (fun r => r) ht.rows
    (ht.questions.ids_nodup List.filter_sublist) hquestionIds
    (fun n hn => by obtain ⟨_, -, his⟩ := exists_question_of_mem h hn; exact his.rows)
    fun _ _ hr => hr
  exact {
    instanceId := hi
    formRead := hform
    steps := hsteps
    sections := hsections
    questions := hquestions
    options := hoptions
    rows := hrows
    stepOrder := Children.increasing h fun r hr n hn => ht.steps.place_eq hr hn.step
    sectionOrder := fun n hn => by
      obtain ⟨_, -, his⟩ := exists_step_of_mem h hn
      exact his.sections.increasing fun r hr m hm => ht.sections.place_eq hr hm.header
    questionOrder := fun n hn => by
      obtain ⟨_, -, his⟩ := exists_section_of_mem h hn
      exact his.questions.increasing fun r hr m hm => ht.questions.place_eq hr hm.question
    optionOrder := fun n hn => by
      obtain ⟨_, -, his⟩ := exists_question_of_mem h hn
      exact his.options.increasing fun r hr o ho => ht.options.place_eq hr ho
    rowOrder := fun n hn => by
      obtain ⟨_, -, his⟩ := exists_question_of_mem h hn
      exact his.rows.increasing fun r hr o ho => ht.rows.place_eq hr ho }

/-! ## Loading -/

/-- Answers that all fit are read. -/
theorem exists_answersOf {id : Value} {table : List Value} (hrecords : ∀ v ∈ table, ∃ r, v = .object r)
    (hfits : ∀ r ∈ records table, t.belongs id r = true →
      (readRecord .answer Answer.read r).isOk = true) :
    ∃ answers, t.answersOf id table = .ok answers := by
  induction table with
  | nil => exact ⟨[], rfl⟩
  | cons v rest ih =>
      obtain ⟨⟨r, rfl⟩, hrest⟩ := List.forall_mem_cons.mp hrecords
      obtain ⟨hr, hothers⟩ := List.forall_mem_cons.mp hfits
      obtain ⟨answers, hanswers⟩ := ih hrest hothers
      rw [answersOf, recordOf_eq_ok_iff.mpr rfl, ok_bind]
      -- An answer of another instance is passed over and need not fit.
      cases hbelongs : t.belongs id r with
      | false => exact ⟨answers, hanswers⟩
      | true =>
          have hok := hr hbelongs
          cases hread : readRecord .answer Answer.read r with
          | error e =>
              rw [hread] at hok
              cases hok
          | ok a => exact ⟨a :: answers, by rw [if_pos rfl, ok_bind, hanswers]; rfl⟩

/-- An instance whose form has a tree is loaded. -/
theorem load_eq (ht : t.WellKeyed) {r : Record} (hr : r ∈ records t.instances)
    (hri : r.number? "id" = some s.instanceId) (hrform : r.number? "form_id" = some form)
    {r' : Record} (hr' : r' ∈ records t.forms) (hr'form : r'.number? "id" = some form)
    (hread : readRecord .form Form.read r' = .ok s.form) (htree : t.IsTree form s.steps)
    (hanswers : t.answersOf (.int s.instanceId) t.answers = .ok s.answers) :
    t.load (.int s.instanceId) = .ok s := by
  -- The number that the form is read with is the one that it was looked up by.
  have hform : s.form.id = form :=
    Record.eq_of_required (Form.id_of_read (fits_of_readRecord hread)) hr'form
  have hrecord : t.formRecord (.int s.instanceId) = .ok r' := by
    rw [formRecord, ht.instances.findRecord_eq hr hri, ok_bind]
    simp only [Record.number?_eq_some_iff.mp hrform, ht.forms.findRecord_eq hr' hr'form, ok_bind]
  simp only [load, bind_eq_ok_iff, pure_eq_ok_iff]
  exact ⟨r', hrecord, s.form, hread, s.steps, hform ▸ htree.tree ht, s.answers, hanswers,
    s.instanceId, rfl, rfl⟩

/-- Out of well-keyed tables an instance with its form is loaded whole: every record that belongs to
    the form is read exactly once, below its own parent and in its place among the others there, and
    nothing else is. The snapshot is the same however the tables are arranged. -/
theorem load_assembles_tree (ht : t.WellKeyed) (hload : t.Loadable i form) :
    ∃ s, t.load (.int i) = .ok s ∧ t.Assembled i form s ∧
      ∀ t', t.Rearranged t' → t'.load (.int i) = .ok s := by
  obtain ⟨r, hr, hri, hrform⟩ := hload.instanceRecord
  obtain ⟨r', hr', hr'form, hok⟩ := hload.formRecord
  obtain ⟨f, hread⟩ : ∃ f, readRecord .form Form.read r' = .ok f := by
    cases hread : readRecord .form Form.read r' with
    | ok f => exact ⟨f, rfl⟩
    | error e =>
        rw [hread] at hok
        cases hok
  -- There is a tree and there are answers; loading finds them in any arrangement.
  obtain ⟨steps, htree⟩ := exists_tree ht hload
  obtain ⟨answers, hanswers⟩ := exists_answersOf ht.answers hload.answers
  let s : Snapshot := ⟨i, f, steps, answers⟩
  refine ⟨s, ?_, ?_, ?_⟩
  · exact load_eq (s := s) ht hr hri hrform hr' hr'form hread htree hanswers
  · exact IsTree.assembled (s := s) htree ht rfl ⟨r', hr', hr'form, hread⟩
  · intro t' ht'
    refine load_eq (s := s) (ht.perm ht') ((records_perm ht'.instances).mem_iff.mpr hr) hri hrform
      ((records_perm ht'.forms).mem_iff.mpr hr') hr'form hread (htree.perm ht') ?_
    -- There are as many instances as before, so the same answers belong to this one.
    have hbelongs : ∀ r, t'.belongs (.int i) r = t.belongs (.int i) r := fun r => by
      rw [belongs, belongs, ht'.instances.length_eq]
    rw [answersOf_congr hbelongs, ht'.answers]
    exact hanswers

/-- Tables of two forms in no order: with steps in the wrong order, sections that only their ids put
    in order, a question whose order number is given where that of the other is not, and a section
    of no step. -/
def shuffled : FormTables where
  instances := [recordWith [("id", .int 2), ("form_id", .int 9)],
    recordWith [("id", .int 1), ("form_id", .int 1)]]
  forms := [recordWith [("id", .int 9)], recordWith [("id", .int 1)]]
  steps := [recordWith [("id", .int 2), ("form_id", .int 1), ("sort_order", .int 2)],
    recordWith [("id", .int 3), ("form_id", .int 9)],
    recordWith [("id", .int 1), ("form_id", .int 1), ("sort_order", .int 1)]]
  sections := [recordWith [("id", .int 5), ("step_id", .int 1)],
    recordWith [("id", .int 6), ("step_id", .int 8), ("title", .int 0)],
    recordWith [("id", .int 4), ("step_id", .int 1)]]
  questions := [recordWith [("id", .int 20), ("section_id", .int 4)],
    recordWith [("id", .int 21), ("section_id", .int 4), ("sort_order", .int (-1))]]
  options := [recordWith [("id", .int 31), ("question_id", .int 21)],
    recordWith [("id", .int 30), ("question_id", .int 21)]]
  rows := [recordWith [("id", .int 40), ("question_id", .int 20)]]
  answers := [recordWith [("instance_id", .int 1), ("question_id", .int 20)],
    recordWith [("instance_id", .int 2)]]

/-- The tables out of order are well-keyed, and the first instance is loaded whole. -/
theorem load_assembles_shuffled :
    shuffled.WellKeyed ∧ shuffled.Loadable 1 1 ∧
      ∃ s, shuffled.load (.int 1) = .ok s ∧ shuffled.Assembled 1 1 s ∧
        ∀ t', shuffled.Rearranged t' → t'.load (.int 1) = .ok s := by
  have hkeyed : shuffled.WellKeyed := {
    instances := ⟨by decide, by decide⟩
    forms := ⟨by decide, by decide⟩
    steps := ⟨by decide, by decide⟩
    sections := ⟨by decide, by decide⟩
    questions := ⟨by decide, by decide⟩
    options := ⟨by decide, by decide⟩
    rows := ⟨by decide, by decide⟩
    answers := by simp [shuffled, recordWith] }
  have hload : shuffled.Loadable 1 1 := {
    instanceRecord := by decide
    formRecord := by decide
    steps := by decide
    sections := by decide
    questions := by decide
    options := by decide
    rows := by decide
    answers := by decide }
  exact ⟨hkeyed, hload, load_assembles_tree hkeyed hload⟩

end FormTables

end FormPress
