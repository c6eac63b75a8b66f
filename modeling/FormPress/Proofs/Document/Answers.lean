/-
  FormPress.Proofs.Document.Answers

  How a document depends on the answers.  It reads them only through the last
  record with an answer under each key of its form (`plan_of_last_given`), and a
  change of answers to some questions leaves all but the sections of these
  questions as they were (`plan_unchanged_outside`).  Both rest on one fact: two
  snapshots of a form whose records agree under the keys that are read give
  books that agree (`ofSnapshot_alike`).
-/
import FormPress.Proofs.Answers.Book
import FormPress.Proofs.Document.Plan
import FormPress.Proofs.Pages.Numbering
import FormPress.Proofs.Section.Locality
import Mathlib.Data.Set.Basic

namespace FormPress

open AnswerBook (Alike)

/-! ## Books of snapshots -/

/-- The keys under which the questions of a snapshot have answers. -/
def Snapshot.answerKeys (s : Snapshot) : List AnswerKey := s.questions.flatMap QuestionNode.keys

/-- Whether a record answers a question of the snapshot, or a row of one. -/
def Snapshot.reads (s : Snapshot) (a : Answer) : Bool := a.isGiven && decide (a.key ∈ s.answerKeys)

section

variable {s t : Snapshot}

/-- Snapshots of the same steps ask the same questions. -/
theorem questions_eq (hsteps : s.steps = t.steps) : s.questions = t.questions := by
  rw [Snapshot.questions, Snapshot.sections, hsteps, Snapshot.questions, Snapshot.sections]

/-- The book of a snapshot finds under a key the last answer given there. -/
theorem value_ofSnapshot (s : Snapshot) (question : Int) (row : Option Int) :
    (AnswerBook.ofSnapshot s).value question row =
      (lastGiven s.answers ⟨question, row⟩).getD .empty :=
  AnswerBook.value_build ..

/-- A code is answered by the questions that carry it, and else by the form. -/
theorem codeShown_ofSnapshot_congr {code : String} (hform : s.form = t.form)
    (hsteps : s.steps = t.steps)
    (h : ∀ q ∈ s.questions, q.question.code = some code →
      ((AnswerBook.ofSnapshot s).value q.question.id).ReadsAs
        ((AnswerBook.ofSnapshot t).value q.question.id)) :
    ((AnswerBook.ofSnapshot s).codeValue code).shown =
      ((AnswerBook.ofSnapshot t).codeValue code).shown := by
  have hvalue : ∀ q ∈ s.questions, q.question.code = some code →
      (AnswerBook.lookUp (s.answers.foldl AnswerBook.enter []) q.question.id none).ReadsAs
        (AnswerBook.lookUp (t.answers.foldl AnswerBook.enter []) q.question.id none) := h
  have hanswers : s.questions.filter
        (AnswerBook.answersCode (s.answers.foldl AnswerBook.enter []) code) =
      s.questions.filter
        (AnswerBook.answersCode (t.answers.foldl AnswerBook.enter []) code) := by
    apply List.filter_congr
    intro q hq
    -- Only a question with the code is asked for its answer.
    by_cases hcode : q.question.code = some code
    · rw [AnswerBook.answersCode, (hvalue q hq hcode).isEmpty, AnswerBook.answersCode]
    · simp [AnswerBook.answersCode, hcode]
  rw [AnswerBook.ofSnapshot, AnswerBook.codeValue_build, AnswerBook.ofSnapshot,
    AnswerBook.codeValue_build, ← hform, ← questions_eq hsteps, hanswers]
  cases hlast : (s.questions.filter
      (AnswerBook.answersCode (t.answers.foldl AnswerBook.enter []) code)).getLast? with
  | none => rfl
  | some q =>
      -- The last question that answers the code carries it.
      obtain ⟨hq, hanswer⟩ := List.mem_filter.mp (List.mem_of_getLast? hlast)
      simp only [AnswerBook.answersCode, Bool.and_eq_true, decide_eq_true_eq] at hanswer
      exact (hvalue q hq hanswer.1.1).shown

/-- Snapshots of one form whose answers to some questions, and to all that carry a shared code, are
    read alike give books that agree on these questions. -/
theorem ofSnapshot_alike_of_reads {questions : List QuestionNode} (hform : s.form = t.form)
    (hsteps : s.steps = t.steps)
    (hkeys : ∀ q ∈ questions, ∀ k ∈ q.keys,
      ((AnswerBook.ofSnapshot s).value k.question k.row).ReadsAs
        ((AnswerBook.ofSnapshot t).value k.question k.row))
    (hsignatures : ∀ q ∈ questions, q.question.kind = .signature → ∀ name,
      ((AnswerBook.ofSnapshot s).value q.question.id).signature name =
        ((AnswerBook.ofSnapshot t).value q.question.id).signature name)
    (hcodes : ∀ q ∈ s.questions, ∀ code ∈ sharedCodes, q.question.code = some code →
      ((AnswerBook.ofSnapshot s).value q.question.id).ReadsAs
        ((AnswerBook.ofSnapshot t).value q.question.id)) :
    Alike (.ofSnapshot s) (.ofSnapshot t) questions where
  keys := hkeys
  signatures := hsignatures
  codes code hcode :=
    codeShown_ofSnapshot_congr hform hsteps fun q hq hcarries => hcodes q hq code hcode hcarries

/-- Snapshots of one form whose records agree under the keys of some questions, and of all that
    carry a shared code, give books that agree on these questions. -/
theorem ofSnapshot_alike {questions : List QuestionNode} (hform : s.form = t.form)
    (hsteps : s.steps = t.steps)
    (hkeys : ∀ q ∈ questions, ∀ k ∈ q.keys, lastGiven s.answers k = lastGiven t.answers k)
    (hcodes : ∀ q ∈ s.questions, ∀ code ∈ sharedCodes, q.question.code = some code →
      lastGiven s.answers ⟨q.question.id, none⟩ = lastGiven t.answers ⟨q.question.id, none⟩) :
    Alike (.ofSnapshot s) (.ofSnapshot t) questions := by
  have hvalue : ∀ question row, lastGiven s.answers ⟨question, row⟩ =
      lastGiven t.answers ⟨question, row⟩ →
      (AnswerBook.ofSnapshot s).value question row = (AnswerBook.ofSnapshot t).value question row := by
    intro question row hlast
    rw [value_ofSnapshot, value_ofSnapshot, hlast]
  apply ofSnapshot_alike_of_reads hform hsteps
  · intro q hq k hk
    exact .of_eq (hvalue _ _ (hkeys q hq k hk))
  · intro q hq _ name
    rw [hvalue _ _ (hkeys q hq ⟨q.question.id, none⟩ (List.mem_cons_self ..))]
  · intro q hq code hcode hcarries
    exact .of_eq (hvalue _ _ (hcodes q hq code hcode hcarries))

end

/-! ## Covers, footers and pages made with books that agree -/

section

variable {a b : AnswerBook}

/-- A cover shows what is found under the shared codes. -/
theorem Cover.compose_congr (form : Form) (wording : CoverProfile) (crest : Option String)
    {questions : List QuestionNode} (h : Alike a b questions) :
    compose form a wording crest = compose form b wording crest := by
  have hcode : a.codeText ["unit.code"] = b.codeText ["unit.code"] := h.codeText (by decide)
  have htitle : a.codeText ["unit.name", "qualification.name"] =
      b.codeText ["unit.name", "qualification.name"] := h.codeText (by decide)
  have hname : a.codeText ["student.fullName"] = b.codeText ["student.fullName"] :=
    h.codeText (by decide)
  have hid : a.codeText ["student.id"] = b.codeText ["student.id"] := h.codeText (by decide)
  rw [compose, hcode, htitle, hname, hid, compose]

/-- A footer shows what is found under the code of the unit. -/
theorem RunningFooter.compose_congr (form : Form) {questions : List QuestionNode}
    (h : Alike a b questions) : compose form a = compose form b := by
  have hcode : a.codeText ["unit.code"] = b.codeText ["unit.code"] := h.codeText (by decide)
  rw [compose, hcode, compose]

variable (p : Profile)

/-- The fragments of some sections are the same if the books agree on each. -/
theorem fragments_congr (xs : List (SectionNode × SectionContext)) (numbers : List (Option Int))
    (h : ∀ x ∈ xs, Alike a b x.1.questions) :
    List.zipWith (fragmentUnder a p) xs numbers = List.zipWith (fragmentUnder b p) xs numbers := by
  induction xs generalizing numbers with
  | nil => rw [List.zipWith_nil_left, List.zipWith_nil_left]
  | cons x xs ih =>
      cases numbers with
      | nil => rw [List.zipWith_nil_right, List.zipWith_nil_right]
      | cons number numbers =>
          have hx : fragmentUnder a p x number = fragmentUnder b p x number :=
            SectionFragment.ofSection_congr p number x.2 (h x (List.mem_cons_self ..))
          rw [List.zipWith_cons_cons, List.zipWith_cons_cons, hx,
            ih numbers fun y hy => h y (List.mem_cons_of_mem _ hy)]

/-- The pages of some groups are the same if the books agree on all their sections. -/
theorem bodyPagesFrom_congr (groups : List PageGroup) (numbers : List (Option Int))
    (h : ∀ x ∈ p.placed (groups.flatMap PageGroup.steps), Alike a b x.1.questions) :
    bodyPagesFrom a p groups numbers = bodyPagesFrom b p groups numbers := by
  induction groups generalizing numbers with
  | nil => rfl
  | cons g groups ih =>
      rw [List.flatMap_cons, placed_append] at h
      have hpage := fragments_congr p (p.placed g.steps) numbers
        fun x hx => h x (List.mem_append_left _ hx)
      have hrest := ih (numbers.drop (p.placed g.steps).length)
        fun x hx => h x (List.mem_append_right _ hx)
      rw [bodyPagesFrom, bodyPagesFrom, fragmentsOf_eq, fragmentsOf_eq]
      -- `bodyPagesFrom` spells `placed` out.
      rw [Profile.placed] at hpage hrest
      simp only [hpage, hrest]

/-- Whatever the answers, the fragment at a place of a document is made of the section at that place,
    under the same number and in the same surroundings. -/
theorem bodyPages_fragment_at (steps : List StepNode) (start : Int) {i : Nat}
    {x : StepNode × SectionNode} (hx : (sectionsOf steps)[i]? = some x) :
    ∃ number c, ∀ answers : AnswerBook,
      ((bodyPages answers p (PageGroup.plan steps) start).1.flatMap (·.fragments))[i]? =
        some (.ofSection x.2 answers p number c) := by
  have hfst : ((p.placed steps).map Prod.fst)[i]? = some x.2 := by
    rw [placed_fst, List.getElem?_map, hx]
    rfl
  rw [List.getElem?_map, Option.map_eq_some_iff] at hfst
  obtain ⟨⟨n, c⟩, hplaced, rfl⟩ := hfst
  -- There are as many numbers as placed sections.
  have hlt : i < (p.numbersOf steps start).1.length := by
    rw [numbersOf_length]
    exact (List.getElem?_eq_some_iff.mp hplaced).1
  refine ⟨(p.numbersOf steps start).1[i], c, fun answers => ?_⟩
  rw [bodyPages_fragments, plan_steps, List.getElem?_zipWith_eq_some]
  exact ⟨(x.2, c), (p.numbersOf steps start).1[i], hplaced, List.getElem?_eq_getElem hlt, rfl⟩

/-- What a page shows apart from the content of its sections: the titles of its steps and, of each
    fragment, the section, the mode and the heading number. -/
def BodyPage.frame (page : BodyPage) : List String × List (Int × SectionMode × Option Int) :=
  (page.titles, page.fragments.map fun f => (f.sectionId, f.mode, f.headingNumber))

theorem fragments_frame (xs : List (SectionNode × SectionContext)) (numbers : List (Option Int)) :
    (List.zipWith (fragmentUnder a p) xs numbers).map
        (fun f => (f.sectionId, f.mode, f.headingNumber)) =
      List.zipWith (fun x number => (x.1.header.id, x.1.header.mode, number)) xs numbers := by
  rw [List.map_zipWith]
  simp only [fragmentUnder_sectionId, fragmentUnder_mode, fragmentUnder_headingNumber]

/-- The frames of pages are made without a look at the answers. -/
theorem bodyPagesFrom_frame (a b : AnswerBook) (groups : List PageGroup)
    (numbers : List (Option Int)) :
    (bodyPagesFrom a p groups numbers).map BodyPage.frame =
      (bodyPagesFrom b p groups numbers).map BodyPage.frame := by
  induction groups generalizing numbers with
  | nil => rfl
  | cons g groups ih =>
      rw [bodyPagesFrom, bodyPagesFrom, fragmentsOf_eq, fragmentsOf_eq]
      simp only [List.map_cons, BodyPage.frame, fragments_frame]
      rw [← ih]

end

namespace DocumentMaker

variable (maker : DocumentMaker) {s t : Snapshot}

/-! ## The last answer under each key -/

/-- The pages of two snapshots are the same if their books agree on all questions. -/
theorem pagesOf_congr (hsteps : s.steps = t.steps)
    (h : Alike (.ofSnapshot s) (.ofSnapshot t) s.questions) : maker.pagesOf s = maker.pagesOf t := by
  rw [pagesOf, pages, bodyPages, pagesOf, pages, bodyPages, ← hsteps]
  apply bodyPagesFrom_congr
  intro x hx
  rw [plan_steps] at hx
  exact h.mono (placed_questions hx)

/-- Snapshots of one form whose books agree on all of its questions have the same plan. -/
theorem plan_congr (hform : s.form = t.form) (hsteps : s.steps = t.steps)
    (h : Alike (.ofSnapshot s) (.ofSnapshot t) s.questions) : maker.plan s = maker.plan t := by
  have hcover : ∀ crest, maker.coverWith s crest = maker.coverWith t crest := by
    intro crest
    rw [coverWith, Cover.compose_congr _ _ _ h, hform, coverWith]
  have hplan : ∀ crest header, maker.planWith s crest header = maker.planWith t crest header := by
    intro crest header
    rw [planWith, hcover, maker.pagesOf_congr hsteps h, RunningFooter.compose_congr _ h, hform,
      planWith]
  simp only [plan_eq, maker.header_eq hform, hform, hplan]

/-- The plan of a document depends on the answers only through the last record with an answer under
    each key of the form.  So records that answer nothing of the form, and records without an
    answer, change nothing wherever they stand, and with each key once the order of the records is
    of no matter. -/
theorem plan_of_last_given (s t : Snapshot) (hform : s.form = t.form)
    (hsteps : s.steps = t.steps) :
    ((∀ k ∈ s.answerKeys, lastGiven s.answers k = lastGiven t.answers k) →
        maker.plan s = maker.plan t) ∧
      (s.answers.filter s.reads = t.answers.filter s.reads → maker.plan s = maker.plan t) ∧
      (s.answers.Perm t.answers → (s.answers.map Answer.key).Nodup →
        maker.plan s = maker.plan t) := by
  have hlast : (∀ k ∈ s.answerKeys, lastGiven s.answers k = lastGiven t.answers k) →
      maker.plan s = maker.plan t := by
    intro h
    have hkeys : ∀ q ∈ s.questions, ∀ k ∈ q.keys,
        lastGiven s.answers k = lastGiven t.answers k :=
      fun q hq k hk => h k (List.mem_flatMap.mpr ⟨q, hq, hk⟩)
    apply maker.plan_congr hform hsteps
    exact ofSnapshot_alike hform hsteps hkeys
      fun q hq _ _ _ => hkeys q hq _ (List.mem_cons_self ..)
  refine ⟨hlast, ?_, ?_⟩
  · intro hreads
    apply hlast
    intro k hk
    have hread : ∀ a : Answer, a.answers k = true → s.reads a = true := by
      intro a ha
      simp only [Answer.answers, Bool.and_eq_true, decide_eq_true_eq] at ha
      simp only [Snapshot.reads, Bool.and_eq_true, decide_eq_true_eq]
      exact ⟨ha.2, ha.1 ▸ hk⟩
    calc lastGiven s.answers k
        = lastGiven (s.answers.filter s.reads) k := (lastGiven_filter hread _).symm
      _ = lastGiven (t.answers.filter s.reads) k := by rw [hreads]
      _ = lastGiven t.answers k := lastGiven_filter hread _
  · intro hperm hnodup
    exact hlast fun k _ => lastGiven_perm hperm hnodup k

/-- A snapshot with a remark, and records that answer nothing of its form or nothing at all. -/
def remarkedSnapshot (others : List Answer) : Snapshot :=
  { instanceId := 1
    form := default
    steps := [⟨default, [⟨default, [⟨{ (default : Question) with id := 1 }, [], []⟩]⟩]⟩]
    answers := { (default : Answer) with questionId := 1, valueText := some "fine" } :: others }

/-- Neither an answer to an unknown question nor an empty record changes the plan. -/
theorem plan_of_remark_with_strays :
    let strays : List Answer := [
      { (default : Answer) with questionId := 7, valueText := some "lost" },
      { (default : Answer) with questionId := 1, valueData := .null }]
    let s := remarkedSnapshot []
    let t := remarkedSnapshot strays
    s.form = t.form ∧ s.steps = t.steps ∧ s.answers.filter s.reads = t.answers.filter s.reads ∧
      (default : DocumentMaker).plan s = (default : DocumentMaker).plan t := by
  intro strays s t
  have hreads : s.answers.filter s.reads = t.answers.filter s.reads := rfl
  exact ⟨rfl, rfl, hreads, (plan_of_last_given default s t rfl rfl).2.1 hreads⟩

end DocumentMaker

/-! ## Answers to some questions only -/

namespace DocumentPlan

/-- The heading numbers are part of the frames. -/
theorem headingNumbers_eq_of_frames {p q : DocumentPlan}
    (h : p.pages.map BodyPage.frame = q.pages.map BodyPage.frame) :
    p.headingNumbers = q.headingNumbers := by
  have hframes : ∀ plan : DocumentPlan, plan.headingNumbers =
      (plan.pages.map BodyPage.frame).flatMap fun frame => frame.2.filterMap (·.2.2) := by
    intro plan
    simp only [headingNumbers, BodyPage.frame, List.flatMap_map, List.filterMap_map,
      Function.comp_def]
  rw [hframes p, h, ← hframes q]

/-- Two plans for the same steps that differ at most in the fragments of sections which ask one of
    the touched questions. -/
structure SameOutside (touched : Set Int) (steps : List StepNode) (p q : DocumentPlan) : Prop where
  cover : p.cover = q.cover
  coverHtml : p.coverHtml = q.coverHtml
  header : p.bodyOptions.header = q.bodyOptions.header
  footer : p.bodyOptions.footer = q.bodyOptions.footer
  frames : p.pages.map BodyPage.frame = q.pages.map BodyPage.frame
  numbers : p.headingNumbers = q.headingNumbers
  fragments : ∀ (i : Nat) (x : StepNode × SectionNode), (sectionsOf steps)[i]? = some x →
    (∀ node ∈ x.2.questions, node.question.id ∉ touched) →
    ∃ f, (p.pages.flatMap (·.fragments))[i]? = some f ∧
      (q.pages.flatMap (·.fragments))[i]? = some f ∧ f.sectionId = x.2.header.id

end DocumentPlan

namespace DocumentMaker

variable (maker : DocumentMaker) {s t : Snapshot} {touched : Set Int}

/-- Where the touched questions carry none of the shared codes, the books agree on all others. -/
theorem alike_outside {questions : List QuestionNode} (hform : s.form = t.form)
    (hsteps : s.steps = t.steps)
    (hanswers : ∀ k : AnswerKey, k.question ∉ touched →
      lastGiven s.answers k = lastGiven t.answers k)
    (hcodes : ∀ node ∈ s.questions, node.question.id ∈ touched →
      ∀ code ∈ sharedCodes, node.question.code ≠ some code)
    (hquestions : ∀ node ∈ questions, node.question.id ∉ touched) :
    Alike (.ofSnapshot s) (.ofSnapshot t) questions := by
  apply ofSnapshot_alike hform hsteps
  · intro q hq k hk
    -- All keys of a question name the question itself.
    have hkey : k.question = q.question.id := by
      rcases List.mem_cons.mp hk with rfl | hrow
      · rfl
      · obtain ⟨r, -, rfl⟩ := List.mem_map.mp hrow
        rfl
    exact hanswers k (hkey ▸ hquestions q hq)
  · intro q hq code hcode hcarries
    have huntouched : q.question.id ∉ touched := fun htouched =>
      hcodes q hq htouched code hcode hcarries
    exact hanswers _ huntouched

theorem planWith_header (s : Snapshot) (crest : Option String) (header : RunningHeader) :
    (maker.planWith s crest header).bodyOptions.header =
      (Html.runningHeader header maker.profile.organisation).render := rfl

/-- Where the books agree on all questions that are not touched, the plans are the same outside of
    the sections that ask a touched one. -/
theorem planWith_sameOutside_of_alike (hform : s.form = t.form) (hsteps : s.steps = t.steps)
    (halike : ∀ questions : List QuestionNode, (∀ node ∈ questions, node ∈ s.questions) →
      (∀ node ∈ questions, node.question.id ∉ touched) →
      Alike (.ofSnapshot s) (.ofSnapshot t) questions)
    (crest : Option String) (header : RunningHeader) :
    (maker.planWith s crest header).SameOutside touched s.steps (maker.planWith t crest header) := by
  have hcommon : Alike (.ofSnapshot s) (.ofSnapshot t) [] := halike [] (by simp) (by simp)
  have hcover : maker.coverWith s crest = maker.coverWith t crest := by
    rw [coverWith, Cover.compose_congr _ _ _ hcommon, hform, coverWith]
  have hframes : (maker.pagesOf s).map BodyPage.frame = (maker.pagesOf t).map BodyPage.frame := by
    rw [pagesOf, pages, bodyPages, pagesOf, pages, bodyPages, ← hsteps]
    exact bodyPagesFrom_frame ..
  refine ⟨hcover, ?_, ?_, ?_, hframes, DocumentPlan.headingNumbers_eq_of_frames hframes, ?_⟩
  · simp only [planWith, hcover]
  · rw [planWith_header, planWith_header]
  · simp only [planWith, bodyOptions, RunningFooter.compose_congr _ hcommon, hform]
  · intro i x hx huntouched
    obtain ⟨number, c, hat⟩ := bodyPages_fragment_at maker.profile s.steps 1 hx
    have hsame := SectionFragment.ofSection_congr maker.profile number c
      (halike x.2.questions (sectionsOf_questions (List.mem_of_getElem? hx)) huntouched)
    refine ⟨_, hat (.ofSnapshot s), ?_, rfl⟩
    have ht := hat (.ofSnapshot t)
    rw [hsteps] at ht
    rw [hsame]
    exact ht

/-- Plans with the same logos differ at most in sections that ask a touched question. -/
theorem planWith_sameOutside (hform : s.form = t.form) (hsteps : s.steps = t.steps)
    (hanswers : ∀ k : AnswerKey, k.question ∉ touched →
      lastGiven s.answers k = lastGiven t.answers k)
    (hcodes : ∀ node ∈ s.questions, node.question.id ∈ touched →
      ∀ code ∈ sharedCodes, node.question.code ≠ some code)
    (crest : Option String) (header : RunningHeader) :
    (maker.planWith s crest header).SameOutside touched s.steps (maker.planWith t crest header) :=
  maker.planWith_sameOutside_of_alike hform hsteps
    (fun _ _ huntouched => alike_outside hform hsteps hanswers hcodes huntouched) crest header

/-- Answering questions changes only the sections that ask them: with the same logos at hand, two
    snapshots of one form whose answers differ at most under the keys of some touched questions,
    none of which carries a shared code, either have plans that are the same outside of the sections
    with a touched question, or fail for the same reason. -/
theorem plan_unchanged_outside (s t : Snapshot) (touched : Set Int) (shelf : Shelf)
    (log : List LogEntry) (hform : s.form = t.form) (hsteps : s.steps = t.steps)
    (hanswers : ∀ k : AnswerKey, k.question ∉ touched →
      lastGiven s.answers k = lastGiven t.answers k)
    (hcodes : ∀ node ∈ s.questions, node.question.id ∈ touched →
      ∀ code ∈ sharedCodes, node.question.code ≠ some code) :
    match (maker.plan s (shelf, log)).1, (maker.plan t (shelf, log)).1 with
    | .ok p, .ok q => p.SameOutside touched s.steps q
    | .error e, .error e' => e = e'
    | _, _ => False := by
  rw [plan_eq, plan_eq, maker.header_eq hform, hform]
  simp only [bind_apply, pure_apply]
  rcases maker.crest t.form (shelf, log) with ⟨e | crest, looked⟩
  · rfl
  -- The crest is the same for both, so the header is looked for in the same state.
  simp only
  rcases maker.header t looked with ⟨e | header, looked'⟩
  · rfl
  exact maker.planWith_sameOutside hform hsteps hanswers hcodes crest header

/-- A snapshot of a form with a section for a remark and one for a student's name and signature. -/
def remarkAndSignature (remark : String) : Snapshot :=
  let name : Question := { (default : Question) with id := 2, code := some "student.fullName" }
  let mark : Question :=
    { (default : Question) with id := 3, kind := .signature, code := some "student.signature" }
  { instanceId := 1
    form := default
    steps := [⟨default, [⟨default, [⟨{ (default : Question) with id := 1 }, [], []⟩]⟩,
      ⟨{ (default : Section) with id := 5 }, [⟨name, [], []⟩, ⟨mark, [], []⟩]⟩]⟩]
    answers := [
      { (default : Answer) with questionId := 2, valueText := some "Ada" },
      { (default : Answer) with questionId := 1, valueText := some remark }] }

/-- Another remark leaves the section with the signature as it is. -/
theorem plan_unchanged_outside_remark :
    let s := remarkAndSignature "fine"
    let t := remarkAndSignature "late"
    (∀ k : AnswerKey, k.question ∉ ({1} : Set Int) →
        lastGiven s.answers k = lastGiven t.answers k) ∧
      (∀ node ∈ s.questions, node.question.id ∈ ({1} : Set Int) →
        ∀ code ∈ sharedCodes, node.question.code ≠ some code) ∧
      match ((default : DocumentMaker).plan s (default, [])).1,
        ((default : DocumentMaker).plan t (default, [])).1 with
      | .ok p, .ok q => p.SameOutside {1} s.steps q
      | .error e, .error e' => e = e'
      | _, _ => False := by
  intro s t
  have hanswers : ∀ k : AnswerKey, k.question ∉ ({1} : Set Int) →
      lastGiven s.answers k = lastGiven t.answers k := by
    intro k hk
    have hkeep : ∀ a : Answer, a.answers k = true → (a.questionId != 1) = true := by
      intro a ha
      simp only [Answer.answers, Bool.and_eq_true, decide_eq_true_eq] at ha
      simpa [← ha.1, Answer.key] using hk
    calc lastGiven s.answers k
        = lastGiven (s.answers.filter (·.questionId != 1)) k := (lastGiven_filter hkeep _).symm
      _ = lastGiven (t.answers.filter (·.questionId != 1)) k := rfl
      _ = lastGiven t.answers k := lastGiven_filter hkeep _
  have hcodes : ∀ node ∈ s.questions, node.question.id ∈ ({1} : Set Int) →
      ∀ code ∈ sharedCodes, node.question.code ≠ some code := by
    have hone : ∀ node ∈ s.questions, node.question.id = 1 → node.question.code = none := by decide
    intro node hnode hid code _
    rw [hone node hnode hid]
    exact (Option.some_ne_none code).symm
  exact ⟨hanswers, hcodes,
    plan_unchanged_outside default s t {1} default [] rfl rfl hanswers hcodes⟩

end DocumentMaker

end FormPress
