/-
  FormPress.Proofs.Tables.Tree

  The tree of a form as the tables have it.  What a tree is stands here without a
  word on how it is found (`IsTree`): the parts below a key are read from the
  records that hold it, in increasing order (`Children`).  There is a tree if all
  records of the form fit (`exists_tree`), loading finds it (`IsTree.tree`), and
  it is that of the tables in any arrangement (`IsTree.perm`).
-/
import FormPress.Proofs.Tables.Part

namespace FormPress

/-! ## Parts and their records -/

/-- If there is something for each item, there is a list of such things. -/
theorem exists_forall₂ {α β : Type} {R : α → β → Prop} {xs : List α}
    (h : ∀ x ∈ xs, ∃ y, R x y) : ∃ ys, List.Forall₂ R xs ys := by
  induction xs with
  | nil => exact ⟨[], .nil⟩
  | cons x xs ih =>
      obtain ⟨⟨y, hy⟩, hxs⟩ := List.forall_mem_cons.mp h
      obtain ⟨ys, hys⟩ := ih hxs
      exact ⟨y :: ys, .cons hy hys⟩

theorem exists_of_forall₂ {α β : Type} {R : α → β → Prop} {xs : List α} {ys : List β}
    (h : List.Forall₂ R xs ys) {x : α} (hx : x ∈ xs) : ∃ y ∈ ys, R x y := by
  induction h with
  | nil => cases hx
  | cons hxy _ ih =>
      obtain rfl | hx := List.mem_cons.mp hx
      · exact ⟨_, List.mem_cons_self .., hxy⟩
      · obtain ⟨y, hy, hxy⟩ := ih hx
        exact ⟨y, List.mem_cons_of_mem _ hy, hxy⟩

/-- Items that are paired have the same images if each pair does. -/
theorem map_eq_of_forall₂ {α β γ : Type} {R : α → β → Prop} {f : α → γ} {g : β → γ} {xs : List α}
    {ys : List β} (h : List.Forall₂ R xs ys) (hfg : ∀ x ∈ xs, ∀ y, R x y → f x = g y) :
    xs.map f = ys.map g := by
  induction h with
  | nil => rfl
  | cons hxy _ ih =>
      obtain ⟨hx, hxs⟩ := List.forall_mem_cons.mp hfg
      rw [List.map_cons, List.map_cons, hx _ hxy, ih hxs]

namespace FormTables

/-! ## Children -/

/-- The parts below a key: each is read from one of the records with the key, and they stand in the
    increasing order of the records. -/
def Children {α : Type} (From : Record → α → Prop) (field : String) (key : Int)
    (table : List Value) (parts : List α) : Prop :=
  ∃ rs : List Record, rs.Perm (recordsWith field [key] table) ∧
    (rs.Pairwise fun r s => r.place < s.place) ∧ List.Forall₂ From rs parts

section

variable {α : Type} {From From' : Record → α → Prop} {names : List String} {field : String}
  {key : Int} {table table' : List Value} {parts : List α}

/-- Records that all fit have parts. -/
theorem exists_children (htable : IsKeyed names table)
    (h : ∀ r ∈ recordsWith field [key] table, ∃ a, From r a) :
    ∃ parts, Children From field key table parts := by
  have hplaced : ∀ r ∈ recordsWith field [key] table, r.IsPlaced := fun r hr =>
    htable.placed (mem_recordsWith.mp hr).1
  have hsorted := Record.sorted_of_placed hplaced
  obtain ⟨hperm, hincreasing⟩ := htable.sorted_eq_ok_iff.mp hsorted
  -- Sorted records are the same records, so each of them fits as well.
  obtain ⟨parts, hparts⟩ := exists_forall₂ fun r hr => h r (hperm.mem_iff.mp hr)
  exact ⟨parts, _, hperm, hincreasing, hparts⟩

/-- The children are the same for the table in another arrangement. -/
theorem Children.perm (h : Children From field key table parts) (hperm : table'.Perm table)
    (hfrom : ∀ r a, From r a → From' r a) : Children From' field key table' parts := by
  obtain ⟨rs, hrs, hincreasing, hparts⟩ := h
  exact ⟨rs, hrs.trans (recordsWith_perm hperm field [key]).symm, hincreasing,
    hparts.imp hfrom⟩

/-- Children have increasing places. -/
theorem Children.increasing (h : Children From field key table parts) {place : α → Int ×ₗ Int}
    (hplace : ∀ r ∈ records table, ∀ a, From r a → r.place = place a) :
    (parts.map place).Pairwise (· < ·) := by
  obtain ⟨rs, hrs, hincreasing, hparts⟩ := h
  rw [← map_eq_of_forall₂ hparts fun r hr => hplace r (mem_recordsWith.mp (hrs.mem_iff.mp hr)).1]
  exact List.pairwise_map.mpr hincreasing

/-- Reading what is below a key gives the children. -/
theorem Children.mapM_below (h : Children From field key table parts)
    (htable : IsKeyed names table) {read : Record → Except Failure α}
    (hread : ∀ r ∈ records table, ∀ a, From r a → read r = .ok a) :
    ∃ rs, Record.sorted (recordsWith field [key] table) = .ok rs ∧ rs.mapM read = .ok parts := by
  obtain ⟨rs, hrs, hincreasing, hparts⟩ := h
  refine ⟨rs, htable.sorted_eq_ok_iff.mpr ⟨hrs, hincreasing⟩, mapM_eq_ok_iff.mpr ?_⟩
  have hmem : ∀ r ∈ rs, r ∈ records table := fun r hr =>
    (mem_recordsWith.mp (hrs.mem_iff.mp hr)).1
  exact (List.forall₂_and_left _ _).mpr ⟨hmem, hparts⟩ |>.imp fun r a hra =>
    hread r hra.1 a hra.2

/-- A child is read from a record of the table. -/
theorem Children.exists_record (h : Children From field key table parts) {a : α} (ha : a ∈ parts) :
    ∃ r ∈ records table, From r a := by
  obtain ⟨rs, hrs, -, hparts⟩ := h
  obtain ⟨r, hr, hfrom⟩ := exists_of_forall₂ (List.Forall₂.flip hparts) ha
  exact ⟨r, (mem_recordsWith.mp (hrs.mem_iff.mp hr)).1, hfrom⟩

end

/-! ## Records of a form -/

/-- Tables with whole numbers as ids and keys. -/
structure WellKeyed (t : FormTables) : Prop where
  instances : IsKeyed ["form_id"] t.instances
  forms : IsKeyed [] t.forms
  steps : IsKeyed ["form_id"] t.steps
  sections : IsKeyed ["step_id"] t.sections
  questions : IsKeyed ["section_id"] t.questions
  options : IsKeyed ["question_id"] t.options
  rows : IsKeyed ["question_id"] t.rows
  answers : ∀ v ∈ t.answers, ∃ r, v = .object r

variable (t : FormTables)

/-- The records of a form's steps. -/
def stepRecords (form : Int) : List Record := recordsWith "form_id" [form] t.steps

/-- The records of a form's sections. -/
def sectionRecords (form : Int) : List Record :=
  recordsWith "step_id" (ids (t.stepRecords form)) t.sections

/-- The records of a form's questions. -/
def questionRecords (form : Int) : List Record :=
  recordsWith "section_id" (ids (t.sectionRecords form)) t.questions

/-- The records of the options of a form's questions. -/
def optionRecords (form : Int) : List Record :=
  recordsWith "question_id" (ids (t.questionRecords form)) t.options

/-- The records of the rows of a form's questions. -/
def rowRecords (form : Int) : List Record :=
  recordsWith "question_id" (ids (t.questionRecords form)) t.rows

/-- An instance and its form are there, and all records that are used fit. -/
structure Loadable (i form : Int) : Prop where
  instanceRecord : ∃ r ∈ records t.instances,
    r.number? "id" = some i ∧ r.number? "form_id" = some form
  formRecord : ∃ r ∈ records t.forms,
    r.number? "id" = some form ∧ (readRecord .form Form.read r).isOk = true
  steps : ∀ r ∈ t.stepRecords form, PartKind.step.fits r = true
  sections : ∀ r ∈ t.sectionRecords form, PartKind.header.fits r = true
  questions : ∀ r ∈ t.questionRecords form, PartKind.question.fits r = true
  options : ∀ r ∈ t.optionRecords form, PartKind.option.fits r = true
  rows : ∀ r ∈ t.rowRecords form, PartKind.row.fits r = true
  answers : ∀ r ∈ records t.answers, t.belongs (.int i) r = true →
    (readRecord .answer Answer.read r).isOk = true

/-! ## The tree -/

/-- A question with its options and rows, as the tables have them. -/
structure IsQuestion (r : Record) (n : QuestionNode) : Prop where
  question : PartKind.question.Reads r n.question
  options : Children PartKind.option.Reads "question_id" n.question.id t.options n.options
  rows : Children PartKind.row.Reads "question_id" n.question.id t.rows n.rows

/-- A section with its questions, as the tables have them. -/
structure IsSection (r : Record) (n : SectionNode) : Prop where
  header : PartKind.header.Reads r n.header
  questions : Children t.IsQuestion "section_id" n.header.id t.questions n.questions

/-- A step with its sections, as the tables have them. -/
structure IsStep (r : Record) (n : StepNode) : Prop where
  step : PartKind.step.Reads r n.step
  sections : Children t.IsSection "step_id" n.step.id t.sections n.sections

/-- The tree of a form, as the tables have it. -/
def IsTree (form : Int) (steps : List StepNode) : Prop :=
  Children t.IsStep "form_id" form t.steps steps

variable {t} {i form : Int}

/-! ### There is a tree -/

/-- A record with one of the keys is among those with some of them. -/
theorem recordsWith_subset {field : String} {key : Int} {keys : List Int} (hkey : key ∈ keys)
    {table : List Value} {r : Record} (hr : r ∈ recordsWith field [key] table) :
    r ∈ recordsWith field keys table := by
  obtain ⟨hmem, n, hn, hfield⟩ := mem_recordsWith.mp hr
  exact mem_recordsWith.mpr ⟨hmem, key, hkey, List.mem_singleton.mp hn ▸ hfield⟩

/-- A question is there for each of its records. -/
theorem exists_question (ht : t.WellKeyed) (hload : t.Loadable i form) {r : Record}
    (hr : r ∈ t.questionRecords form) : ∃ n, t.IsQuestion r n := by
  obtain ⟨q, hq⟩ := PartKind.exists_reads (hload.questions r hr)
  -- The number that was read is the id of the record, so what is below it belongs to the form.
  have hid : q.id ∈ ids (t.questionRecords form) :=
    mem_ids.mpr ⟨r, hr, ht.questions.id_eq (mem_recordsWith.mp hr).1 hq⟩
  obtain ⟨options, hoptions⟩ := exists_children ht.options fun r' hr' =>
    PartKind.exists_reads (hload.options r' (recordsWith_subset hid hr'))
  obtain ⟨rows, hrows⟩ := exists_children ht.rows fun r' hr' =>
    PartKind.exists_reads (hload.rows r' (recordsWith_subset hid hr'))
  exact ⟨⟨q, options, rows⟩, hq, hoptions, hrows⟩

/-- A section is there for each of its records. -/
theorem exists_section (ht : t.WellKeyed) (hload : t.Loadable i form) {r : Record}
    (hr : r ∈ t.sectionRecords form) : ∃ n, t.IsSection r n := by
  obtain ⟨header, hheader⟩ := PartKind.exists_reads (hload.sections r hr)
  have hid : header.id ∈ ids (t.sectionRecords form) :=
    mem_ids.mpr ⟨r, hr, ht.sections.id_eq (mem_recordsWith.mp hr).1 hheader⟩
  obtain ⟨questions, hquestions⟩ := exists_children ht.questions fun r' hr' =>
    exists_question ht hload (recordsWith_subset hid hr')
  exact ⟨⟨header, questions⟩, hheader, hquestions⟩

/-- A step is there for each of its records. -/
theorem exists_step (ht : t.WellKeyed) (hload : t.Loadable i form) {r : Record}
    (hr : r ∈ t.stepRecords form) : ∃ n, t.IsStep r n := by
  obtain ⟨step, hstep⟩ := PartKind.exists_reads (hload.steps r hr)
  have hid : step.id ∈ ids (t.stepRecords form) :=
    mem_ids.mpr ⟨r, hr, ht.steps.id_eq (mem_recordsWith.mp hr).1 hstep⟩
  obtain ⟨sections, hsections⟩ := exists_children ht.sections fun r' hr' =>
    exists_section ht hload (recordsWith_subset hid hr')
  exact ⟨⟨step, sections⟩, hstep, hsections⟩

/-- There is a tree if all records of the form fit. -/
theorem exists_tree (ht : t.WellKeyed) (hload : t.Loadable i form) :
    ∃ steps, t.IsTree form steps :=
  -- The tree grows from the leaves: each level needs what is below its records.
  exists_children ht.steps fun _ hr => exists_step ht hload hr

/-! ### Loading finds it -/

/-- Keyed tables of parts in which below a key are the records that hold it. -/
structure Parts.Of (t : FormTables) (p : Parts) : Prop where
  sections : ∀ n, below p.sections (.int n) =
    Record.sorted (recordsWith "step_id" [n] t.sections)
  questions : ∀ n, below p.questions (.int n) =
    Record.sorted (recordsWith "section_id" [n] t.questions)
  options : ∀ n, below p.options (.int n) =
    Record.sorted (recordsWith "question_id" [n] t.options)
  rows : ∀ n, below p.rows (.int n) =
    Record.sorted (recordsWith "question_id" [n] t.rows)

/-- Well-keyed tables have keyed parts, and below a key are the records that hold it. -/
theorem exists_parts (ht : t.WellKeyed) : ∃ p, t.parts = .ok p ∧ p.Of t := by
  obtain ⟨sections, hsections, hs⟩ := ht.sections.keyed_below (List.mem_singleton_self _)
  obtain ⟨questions, hquestions, hq⟩ := ht.questions.keyed_below (List.mem_singleton_self _)
  obtain ⟨options, hoptions, ho⟩ := ht.options.keyed_below (List.mem_singleton_self _)
  obtain ⟨rows, hrows, hr⟩ := ht.rows.keyed_below (List.mem_singleton_self _)
  exact ⟨⟨sections, questions, options, rows⟩,
    parts_eq_ok_iff.mpr ⟨hsections, hquestions, hoptions, hrows⟩, hs, hq, ho, hr⟩

variable {p : Parts} {r : Record}

/-- The question of a record is what reading the record gives. -/
theorem IsQuestion.questionNode {n : QuestionNode} (h : t.IsQuestion r n) (ht : t.WellKeyed)
    (hp : p.Of t) (hr : r ∈ records t.questions) : questionNode p r = .ok n := by
  have hid := Record.number?_eq_some_iff.mp (ht.questions.id_eq hr h.question)
  obtain ⟨options, hoptions, hreadOptions⟩ := h.options.mapM_below ht.options fun _ _ _ ha => ha
  obtain ⟨rows, hrows, hreadRows⟩ := h.rows.mapM_below ht.rows fun _ _ _ ha => ha
  -- Options and rows are looked up by the id as the record gives it, which is the number.
  simp only [FormTables.questionNode, bind_eq_ok_iff, pure_eq_ok_iff, hid]
  exact ⟨_, h.question, options, (hp.options _).trans hoptions, _, hreadOptions,
    rows, (hp.rows _).trans hrows, _, hreadRows, rfl⟩

/-- The section of a record is what reading the record gives. -/
theorem IsSection.sectionNode {n : SectionNode} (h : t.IsSection r n) (ht : t.WellKeyed)
    (hp : p.Of t) : sectionNode p r = .ok n := by
  obtain ⟨questions, hquestions, hread⟩ := h.questions.mapM_below ht.questions
    fun r hr n hn => hn.questionNode ht hp hr
  simp only [FormTables.sectionNode, bind_eq_ok_iff, pure_eq_ok_iff]
  exact ⟨_, h.header, questions, (hp.questions _).trans hquestions, _, hread, rfl⟩

/-- The step of a record is what reading the record gives. -/
theorem IsStep.stepNode {n : StepNode} (h : t.IsStep r n) (ht : t.WellKeyed) (hp : p.Of t) :
    stepNode p r = .ok n := by
  obtain ⟨sections, hsections, hread⟩ := h.sections.mapM_below ht.sections
    fun _ _ _ hn => hn.sectionNode ht hp
  simp only [FormTables.stepNode, bind_eq_ok_iff, pure_eq_ok_iff]
  exact ⟨_, h.step, sections, (hp.sections _).trans hsections, _, hread, rfl⟩

/-- Loading finds the tree. -/
theorem IsTree.tree {steps : List StepNode} (h : t.IsTree form steps) (ht : t.WellKeyed) :
    t.tree form = .ok steps := by
  obtain ⟨p, hparts, hp⟩ := exists_parts ht
  obtain ⟨ordered, hordered, hread⟩ := Children.mapM_below h ht.steps
    fun _ _ _ hn => hn.stepNode ht hp
  simp only [FormTables.tree, bind_eq_ok_iff]
  exact ⟨p, hparts, _, ht.steps.stepsOf_eq (List.mem_singleton_self _) form, ordered, hordered,
    hread⟩

/-! ### Any arrangement has it -/

/-- The same tables with the records in another order, but for the answers. -/
structure Rearranged (t t' : FormTables) : Prop where
  instances : t'.instances.Perm t.instances
  forms : t'.forms.Perm t.forms
  steps : t'.steps.Perm t.steps
  sections : t'.sections.Perm t.sections
  questions : t'.questions.Perm t.questions
  options : t'.options.Perm t.options
  rows : t'.rows.Perm t.rows
  answers : t'.answers = t.answers

variable {t' : FormTables}

/-- Tables stay well-keyed when their records are put in another order. -/
theorem WellKeyed.perm (h : t.WellKeyed) (ht : t.Rearranged t') : t'.WellKeyed where
  instances := h.instances.perm ht.instances
  forms := h.forms.perm ht.forms
  steps := h.steps.perm ht.steps
  sections := h.sections.perm ht.sections
  questions := h.questions.perm ht.questions
  options := h.options.perm ht.options
  rows := h.rows.perm ht.rows
  answers := ht.answers ▸ h.answers

theorem IsQuestion.perm {n : QuestionNode} (h : t.IsQuestion r n) (ht : t.Rearranged t') :
    t'.IsQuestion r n where
  question := h.question
  options := h.options.perm ht.options fun _ _ ha => ha
  rows := h.rows.perm ht.rows fun _ _ ha => ha

theorem IsSection.perm {n : SectionNode} (h : t.IsSection r n) (ht : t.Rearranged t') :
    t'.IsSection r n where
  header := h.header
  questions := h.questions.perm ht.questions fun _ _ hn => hn.perm ht

theorem IsStep.perm {n : StepNode} (h : t.IsStep r n) (ht : t.Rearranged t') : t'.IsStep r n where
  step := h.step
  sections := h.sections.perm ht.sections fun _ _ hn => hn.perm ht

/-- The tree is that of the tables in any arrangement. -/
theorem IsTree.perm {steps : List StepNode} (h : t.IsTree form steps) (ht : t.Rearranged t') :
    t'.IsTree form steps := Children.perm h ht.steps fun _ _ hn => hn.perm ht

end FormTables

end FormPress
