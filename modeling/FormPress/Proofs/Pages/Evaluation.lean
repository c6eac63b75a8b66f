/-
  FormPress.Proofs.Pages.Evaluation

  Where the marks of a learner evaluation stand in a document.  The first section of
  the step has the introduction.  Of the sections in the mode of rating tables, in
  order, each but the first is told to start a page and the last to end with a bar;
  a section with the participant's title takes its place among them and is then laid
  out in another way, so that what it was told is lost (`stepFragments_tables`).
  The tables that are shown are therefore marked as those of an appendix just where
  the first and the last section in that mode are shown as tables
  (`shownMarks_eq_iff`, `bodyPages_marks`).
-/
import FormPress.Profile.Standard
import FormPress.Proofs.Pages.Fragments
import FormPress.Proofs.Section.Starts
import Mathlib.Data.List.Forall2

namespace FormPress

/-! ## The marks of some tables -/

/-- The marks of a table that comes after others or before none. -/
def marksAt (after last : Bool) : List LayoutMark :=
  (if after then [.pageBreak] else []) ++ if last then [.closingBar] else []

/-- The marks of the tables of an appendix: each but the first starts a page, and a bar is behind
    the last. -/
def appendixMarks (count : Nat) : List (List LayoutMark) :=
  (List.range count).map fun i => marksAt (decide (0 < i)) (i + 1 == count)

/-- The marks of some tables, where `after` says that there are tables before them. -/
def marksFrom (after : Bool) : Nat → List (List LayoutMark)
  | 0 => []
  | k + 1 => marksAt after (k == 0) :: marksFrom true k

/-- The marks of a table can be told from its place. -/
theorem marksFrom_eq (after : Bool) (count : Nat) :
    marksFrom after count =
      (List.range count).map fun i => marksAt (after || decide (0 < i)) (i + 1 == count) := by
  induction count generalizing after with
  | zero => rfl
  | succ k ih =>
      have hfirst : (k == 0) = (0 + 1 == k + 1) := by
        rw [Bool.eq_iff_iff, beq_iff_eq, beq_iff_eq]
        omega
      have hlater (i : Nat) : (i + 1 == k) = (i + 1 + 1 == k + 1) := by
        rw [Bool.eq_iff_iff, beq_iff_eq, beq_iff_eq]
        omega
      -- The places behind the first one are all one further on.
      rw [marksFrom, ih, List.range_succ_eq_map, List.map_cons, List.map_map, hfirst]
      simp only [Function.comp_def, hlater, Bool.true_or, Bool.or_false, Nat.lt_irrefl,
        decide_false, Nat.succ_eq_add_one, Nat.zero_lt_succ, decide_true, Bool.or_true]

/-- The marks of an appendix are those of tables with none before them. -/
theorem appendixMarks_eq (count : Nat) : appendixMarks count = marksFrom false count := by
  rw [marksFrom_eq, appendixMarks]
  simp only [Bool.false_or]

/-- The marks of those among some sections told to be tables that are shown as such. -/
def shownMarks (after : Bool) : List Bool → List (List LayoutMark)
  | [] => []
  | shown :: rest =>
    (if shown then [marksAt after rest.isEmpty] else []) ++ shownMarks true rest

/-- A table starts a page just where there are tables before it. -/
theorem pageBreak_mem_marksAt (after last : Bool) :
    .pageBreak ∈ marksAt after last ↔ after = true := by
  cases after <;> cases last <;> decide

/-- Behind other tables every table starts a page. -/
theorem pageBreak_mem_shownMarks {flags : List Bool} {m : List LayoutMark}
    (h : m ∈ shownMarks true flags) : .pageBreak ∈ m := by
  induction flags with
  | nil => cases h
  | cons shown rest ih =>
      rw [shownMarks] at h
      obtain h | h := List.mem_append.mp h
      · cases shown with
        | true =>
            obtain rfl := List.mem_singleton.mp h
            exact (pageBreak_mem_marksAt true _).mpr rfl
        | false => cases h
      · exact ih h

theorem count_true_eq_zero {flags : List Bool} :
    flags.count true = 0 ↔ ∀ b ∈ flags, b = false := by
  rw [List.count_eq_zero]
  constructor
  · intro h b hb
    rw [Bool.eq_false_iff]
    rintro rfl
    exact h hb
  · exact fun h hmem => Bool.noConfusion (h true hmem)

/-- Every section that is shown as a table has its marks. -/
theorem shownMarks_length (after : Bool) (flags : List Bool) :
    (shownMarks after flags).length = flags.count true := by
  induction flags generalizing after with
  | nil => rfl
  | cons shown rest ih =>
      cases shown with
      | true =>
          rw [shownMarks, if_pos rfl, List.length_append, ih, List.count_cons_self,
            List.length_singleton, Nat.add_comm]
      | false =>
          rw [shownMarks, if_neg Bool.false_ne_true, List.nil_append, ih,
            List.count_cons_of_ne Bool.false_ne_true]

/-- Where the shown tables behind it are marked rightly, a shown table is if it is the last one or
    has a shown one behind it. -/
theorem shownMarks_cons_true {rest : List Bool}
    (ih : shownMarks true rest = marksFrom true (rest.count true) ↔
      (∀ b ∈ rest, b = false) ∨ rest.getLast? = some true) (after : Bool) :
    shownMarks after (true :: rest) = marksFrom after ((true :: rest).count true) ↔
      (true :: rest).getLast? = some true := by
  rw [shownMarks, if_pos rfl, List.singleton_append, List.count_cons_self, marksFrom,
    List.cons_eq_cons, ih]
  cases rest with
  | nil => simp
  | cons shown rest =>
      rw [List.getLast?_cons_cons, List.isEmpty_cons]
      constructor
      · rintro ⟨hbar, hall | hlast⟩
        · -- The table in front has no bar, so there has to be a shown one behind it.
          rw [count_true_eq_zero.mpr hall] at hbar
          exact absurd (congrArg List.length hbar) (by cases after <;> decide)
        · exact hlast
      · intro hlast
        have hpos : 0 < (shown :: rest).count true :=
          List.count_pos_iff.mpr (List.mem_of_getLast? hlast)
        have hmore : ((shown :: rest).count true == 0) = false := by
          rw [beq_eq_false_iff_ne]
          omega
        exact ⟨by rw [hmore], .inr hlast⟩

/-- Behind other tables, the shown ones are marked rightly if the last of all is shown. -/
theorem shownMarks_true_eq_iff (flags : List Bool) :
    shownMarks true flags = marksFrom true (flags.count true) ↔
      (∀ b ∈ flags, b = false) ∨ flags.getLast? = some true := by
  induction flags with
  | nil => exact ⟨fun _ => .inl (List.forall_mem_nil _), fun _ => rfl⟩
  | cons shown rest ih =>
      -- A section that is not shown has no marks, so only the one in front of the others counts.
      cases shown with
      | true =>
          have hnot : ¬ ∀ b ∈ true :: rest, b = false :=
            fun hall => Bool.noConfusion (hall true (List.mem_cons_self ..))
          rw [shownMarks_cons_true ih, or_iff_right hnot]
      | false =>
          rw [shownMarks, if_neg (by decide), List.nil_append, List.count_cons_of_ne (by decide), ih,
            List.forall_mem_cons, eq_self, true_and]
          cases rest with
          | nil => simp
          | cons next rest => rw [List.getLast?_cons_cons]

/-- The shown tables are marked as those of an appendix if there are none, or the first and the last
    of all are shown. -/
theorem shownMarks_eq_iff (flags : List Bool) :
    shownMarks false flags = appendixMarks (flags.count true) ↔
      (∀ b ∈ flags, b = false) ∨ flags.head? = some true ∧ flags.getLast? = some true := by
  rw [appendixMarks_eq]
  cases flags with
  | nil => exact ⟨fun _ => .inl (List.forall_mem_nil _), fun _ => rfl⟩
  | cons shown rest =>
      rw [List.head?_cons, Option.some_inj]
      cases shown with
      | true =>
          have hnot : ¬ ∀ b ∈ true :: rest, b = false :=
            fun hall => Bool.noConfusion (hall true (List.mem_cons_self ..))
          rw [shownMarks_cons_true (shownMarks_true_eq_iff rest), or_iff_right hnot, eq_self,
            true_and]
      | false =>
          rw [shownMarks, if_neg (by decide), List.nil_append, List.count_cons_of_ne (by decide),
            List.forall_mem_cons, eq_self, true_and, iff_false_intro Bool.false_ne_true, false_and,
            or_false]
          constructor
          · -- A first table without a page break is none of those that are shown.
            intro heq
            rw [← count_true_eq_zero]
            rcases hcount : rest.count true with _ | k
            · rfl
            · rw [hcount, marksFrom] at heq
              have hmem : marksAt false (k == 0) ∈ shownMarks true rest := by
                rw [heq]
                exact List.mem_cons_self ..
              have hbreak := pageBreak_mem_shownMarks hmem
              rw [pageBreak_mem_marksAt] at hbreak
              exact absurd hbreak (by decide)
          · intro hall
            have hnone := (shownMarks_true_eq_iff rest).mpr (.inl hall)
            rw [hnone, count_true_eq_zero.mpr hall, marksFrom, marksFrom]

/-! ## The marks of a section -/

/-- Whether a section is in the mode of rating tables. -/
def SectionNode.isTable (n : SectionNode) : Bool := n.header.mode == .likertTable

/-- Whether a section has the title of the participant's details. -/
def Profile.isParticipantTitled (p : Profile) (n : SectionNode) : Bool :=
  Text.trim n.header.title == p.evaluation.participantSectionTitle

/-- Whether a view is laid out as a rating table. -/
def SectionView.isLikert : SectionView → Bool
  | likert _ => true
  | _ => false

/-- The marks of a section beside the introduction. -/
def SectionFragment.tableMarks (f : SectionFragment) : List LayoutMark :=
  f.content.marks.filter (· != .intro)

/-- The introduction is no part of a view. -/
theorem SectionView.intro_not_mem_marks (v : SectionView) : .intro ∉ v.marks := by
  cases v with
  | likert v =>
      rw [SectionView.marks]
      cases v.pageBreakBefore <;> cases v.closingBar <;> decide
  | _ => exact List.not_mem_nil

/-- Only rating tables have marks of their own. -/
theorem SectionView.marks_of_not_isLikert {v : SectionView} (h : v.isLikert = false) :
    v.marks = [] := by
  cases v with
  | likert v => cases h
  | _ => rfl

section

variable (n : SectionNode) (answers : AnswerBook) (p : Profile) (c : SectionContext)
  (number : Option Int)

/-- The title of the participant's details goes before the mode. -/
theorem SectionView.isLikert_ofSection :
    (SectionView.ofSection n answers p c).isLikert =
      (n.isTable && !(c.learnerEvaluation && p.isParticipantTitled n)) := by
  rw [SectionView.ofSection, isParticipantSection, ← Profile.isParticipantTitled,
    SectionNode.isTable]
  cases c.learnerEvaluation && p.isParticipantTitled n with
  | true => rw [if_pos rfl, Bool.not_true, Bool.and_false]; rfl
  | false => cases n.header.mode <;> rfl

/-- A rating table is marked by its place among those of an evaluation. -/
theorem SectionView.marks_ofSection (h : (SectionView.ofSection n answers p c).isLikert = true) :
    (SectionView.ofSection n answers p c).marks =
      marksAt (c.learnerEvaluation && decide (0 < c.likertIndex))
        (c.learnerEvaluation && c.lastLikert) := by
  rw [SectionView.isLikert_ofSection, SectionNode.isTable, Bool.and_eq_true, beq_iff_eq,
    Bool.not_eq_true'] at h
  rw [SectionView.ofSection, isParticipantSection, ← Profile.isParticipantTitled, h.2, h.1]
  rfl

/-- Outside of an evaluation no view has marks. -/
theorem SectionView.marks_of_other (h : c.learnerEvaluation = false) :
    (SectionView.ofSection n answers p c).marks = [] := by
  cases hshown : (SectionView.ofSection n answers p c).isLikert with
  | false => exact marks_of_not_isLikert hshown
  | true =>
      rw [SectionView.marks_ofSection n answers p c hshown, h]
      rfl

/-- The marks of a fragment are the introduction, if it has it, and those of its view. -/
theorem SectionFragment.marks_fragmentUnder :
    (fragmentUnder answers p (n, c) number).content.marks =
      (if c.showLearnerIntro then [.intro] else []) ++
        (SectionView.ofSection n answers p c).marks :=
  (SectionFragment.content_tags n answers p number c).2

/-- Beside the introduction a fragment has the marks of its view. -/
theorem SectionFragment.tableMarks_fragmentUnder :
    (fragmentUnder answers p (n, c) number).tableMarks =
      (SectionView.ofSection n answers p c).marks := by
  have hkept : (SectionView.ofSection n answers p c).marks.filter (· != .intro) =
      (SectionView.ofSection n answers p c).marks := by
    rw [List.filter_eq_self]
    intro m hm
    rw [bne_iff_ne]
    rintro rfl
    exact SectionView.intro_not_mem_marks _ hm
  rw [SectionFragment.tableMarks, SectionFragment.marks_fragmentUnder, List.filter_append, hkept]
  cases c.showLearnerIntro <;> rfl

end

/-! ## The marks of a step -/

variable {answers : AnswerBook} {p : Profile}

/-- Which of the sections in the mode of rating tables are shown as such in an evaluation. -/
def Profile.shownFlags (p : Profile) (ns : List SectionNode) : List Bool :=
  (ns.filter SectionNode.isTable).map fun n => !p.isParticipantTitled n

/-- No section could be shown as a table just where none is in that mode. -/
theorem Profile.shownFlags_isEmpty (p : Profile) (ns : List SectionNode) :
    (p.shownFlags ns).isEmpty = !ns.any SectionNode.isTable := by
  induction ns with
  | nil => rfl
  | cons n ns ih =>
      rw [Profile.shownFlags] at ih ⊢
      cases htable : n.isTable with
      | true => simp [htable]
      | false => simpa [htable] using ih

/-- The context of a first section and those of the sections after it. -/
theorem sectionContextsFrom_cons (title : String) (evaluation : Bool) (i before : Nat)
    (n : SectionNode) (ns : List SectionNode) :
    ∃ c, sectionContextsFrom title evaluation i before (n :: ns) =
        c :: sectionContextsFrom title evaluation (i + 1) (if n.isTable then before + 1 else before)
          ns ∧
      c.learnerEvaluation = evaluation ∧ c.showLearnerIntro = (evaluation && i == 0) ∧
      (n.isTable = true → c.likertIndex = before ∧ c.lastLikert = !ns.any SectionNode.isTable) := by
  rw [sectionContextsFrom]
  refine ⟨_, rfl, rfl, rfl, fun htable => ?_⟩
  rw [SectionNode.isTable] at htable
  simp only [htable, if_true, Bool.true_and]
  exact ⟨trivial, rfl⟩

/-- The tables among the fragments of an evaluation are those that are shown, and they are marked by
    their places among all sections in that mode. -/
theorem Profile.tables_from (p : Profile) (answers : AnswerBook) (title : String) (i before : Nat)
    (ns : List SectionNode) {numbers : List (Option Int)} (hlength : numbers.length = ns.length) :
    let fs := List.zipWith (fragmentUnder answers p)
      (ns.zip (sectionContextsFrom title true i before ns)) numbers
    (fs.filter (·.view.isLikert)).map (·.tableMarks) =
      shownMarks (decide (0 < before)) (p.shownFlags ns) := by
  induction ns generalizing i before numbers with
  | nil => rfl
  | cons n ns ih =>
      -- The first section has the first number, and the others go on with those left.
      obtain ⟨number, numbers, rfl⟩ := List.exists_cons_of_length_eq_add_one hlength
      obtain ⟨c, hcontexts, hevaluation, -, htold⟩ :=
        sectionContextsFrom_cons title true i before n ns
      have hrest := ih (i + 1) (if n.isTable then before + 1 else before) (Nat.succ.inj hlength)
      have hmarks := SectionFragment.tableMarks_fragmentUnder n answers p c number
      have hshown := SectionView.isLikert_ofSection n answers p c
      have hview : (fragmentUnder answers p (n, c) number).view =
          SectionView.ofSection n answers p c := by
        simp only [fragmentUnder, SectionFragment.ofSection]
      rw [hevaluation, Bool.true_and] at hshown
      intro fs
      simp only [fs, hcontexts, List.zip_cons_cons, List.zipWith_cons_cons, List.filter_cons, hview,
        hshown]
      simp only [Profile.shownFlags, List.filter_cons] at hrest ⊢
      cases htable : n.isTable with
      | false =>
          rw [htable] at hrest
          exact hrest
      | true =>
          obtain ⟨hindex, hlast⟩ := htold htable
          rw [htable] at hrest hshown
          have hlater : decide (0 < before + 1) = true := decide_eq_true (Nat.succ_pos before)
          rw [if_pos rfl, hlater] at hrest
          simp only [if_pos, List.map_cons, shownMarks]
          cases hparticipant : p.isParticipantTitled n with
          | true => exact hrest
          | false =>
              rw [hparticipant] at hshown
              have hplace := SectionView.marks_ofSection n answers p c hshown
              have hempty := p.shownFlags_isEmpty ns
              rw [Profile.shownFlags] at hempty
              simp only [Bool.not_false, Bool.and_true, if_pos, List.map_cons, List.singleton_append,
                hmarks, hplace, hevaluation, Bool.true_and, hindex, hlast, hempty, Int.natCast_pos]
              rw [hrest]

/-- No section after the first has the introduction. -/
theorem showLearnerIntro_of_later {title : String} {evaluation : Bool} {i before : Nat}
    {ns : List SectionNode} (hi : i ≠ 0) :
    ∀ c ∈ sectionContextsFrom title evaluation i before ns, c.showLearnerIntro = false := by
  induction ns generalizing i before with
  | nil => exact List.forall_mem_nil _
  | cons n ns ih =>
      obtain ⟨c, hcontexts, -, hintro, -⟩ :=
        sectionContextsFrom_cons title evaluation i before n ns
      rw [hcontexts, List.forall_mem_cons]
      refine ⟨?_, ih (Nat.succ_ne_zero i)⟩
      rw [hintro, beq_eq_false_iff_ne.mpr hi, Bool.and_false]

/-- Every section of a step knows what kind of step it is in. -/
theorem learnerEvaluation_of_mem {title : String} {evaluation : Bool} {i before : Nat}
    {ns : List SectionNode} :
    ∀ c ∈ sectionContextsFrom title evaluation i before ns,
      c.learnerEvaluation = evaluation ∧ (evaluation = false → c.showLearnerIntro = false) := by
  induction ns generalizing i before with
  | nil => exact List.forall_mem_nil _
  | cons n ns ih =>
      obtain ⟨c, hcontexts, hevaluation, hintro, -⟩ :=
        sectionContextsFrom_cons title evaluation i before n ns
      rw [hcontexts, List.forall_mem_cons]
      refine ⟨⟨hevaluation, fun hother => ?_⟩, ih⟩
      rw [hintro, hother, Bool.false_and]

/-- Every fragment of some placed sections is one of theirs under some number. -/
theorem exists_of_mem_zipWith {xs : List (SectionNode × SectionContext)}
    {numbers : List (Option Int)} {f : SectionFragment}
    (hf : f ∈ List.zipWith (fragmentUnder answers p) xs numbers) :
    ∃ x ∈ xs, ∃ number, f = fragmentUnder answers p x number := by
  rw [← List.map_uncurry_zip_eq_zipWith] at hf
  obtain ⟨⟨x, number⟩, hmem, rfl⟩ := List.mem_map.mp hf
  exact ⟨x, (List.of_mem_zip hmem).1, number, rfl⟩

/-- Whether the first and the last section in the mode of rating tables are shown as tables in an
    evaluation, or none is. -/
def Profile.ShowsEnds (p : Profile) (s : StepNode) : Prop :=
  let tables := s.sections.filter SectionNode.isTable
  (∀ n ∈ tables, p.isParticipantTitled n = true) ∨
    ∃ first last, tables.head? = some first ∧ tables.getLast? = some last ∧
      p.isParticipantTitled first = false ∧ p.isParticipantTitled last = false

/-- Whether the ends are shown can be read off the flags alone. -/
theorem showsEnds_iff (s : StepNode) :
    p.ShowsEnds s ↔ (∀ b ∈ p.shownFlags s.sections, b = false) ∨
      (p.shownFlags s.sections).head? = some true ∧
        (p.shownFlags s.sections).getLast? = some true := by
  rw [Profile.ShowsEnds, Profile.shownFlags]
  simp only [List.forall_mem_map, List.head?_map, List.getLast?_map, Option.map_eq_some_iff,
    Bool.not_eq_false', Bool.not_eq_true']
  refine or_congr Iff.rfl ⟨?_, ?_⟩
  · rintro ⟨first, last, hfirst, hlast, hf, hl⟩
    exact ⟨⟨first, hfirst, hf⟩, last, hlast, hl⟩
  · rintro ⟨⟨first, hfirst, hf⟩, last, hlast, hl⟩
    exact ⟨first, last, hfirst, hlast, hf, hl⟩

/-- The marks of the fragments of a step. -/
structure Profile.StepMarks (p : Profile) (s : StepNode) (fs : List SectionFragment) : Prop where
  /-- the fragments are those of the sections -/
  sections : fs.map (·.sectionId) = s.sections.map (·.header.id)
  /-- any other step has no marks -/
  elsewhere : p.isLearnerEvaluation s = false → ∀ f ∈ fs, f.content.marks = []
  /-- the first section of an evaluation has the introduction, and no other has -/
  intro : p.isLearnerEvaluation s = true → ∀ f rest, fs = f :: rest →
    f.content.marks.count .intro = 1 ∧ ∀ g ∈ rest, .intro ∉ g.content.marks
  /-- only rating tables have other marks -/
  others : ∀ f ∈ fs, f.view.isLikert = false → f.tableMarks = []
  /-- the rating tables of an evaluation are marked as those of an appendix just where the sections
      at the ends are among them -/
  tables : p.isLearnerEvaluation s = true →
    let tables := fs.filter (·.view.isLikert)
    tables.map (·.tableMarks) = appendixMarks tables.length ↔ p.ShowsEnds s

/-- The marks of a step that is put under some numbers. -/
theorem stepMarks (s : StepNode) {numbers : List (Option Int)}
    (hlength : numbers.length = s.sections.length) :
    p.StepMarks s (List.zipWith (fragmentUnder answers p) (p.placedSections s) numbers) where
  sections := by
    have hplaced : (p.placedSections s).length = numbers.length := by
      rw [hlength, ← placedSections_fst p s, List.length_map]
    rw [List.map_zipWith]
    simp only [fragmentUnder_sectionId]
    rw [zipWith_fst (fun x : SectionNode × SectionContext => x.1.header.id) _ _
      (Nat.le_of_eq hplaced), ← placedSections_fst p s, List.map_map]
    rfl
  elsewhere hother f hf := by
    obtain ⟨⟨n, c⟩, hmem, number, rfl⟩ := exists_of_mem_zipWith hf
    have hc : c ∈ p.sectionContexts s := (List.of_mem_zip hmem).2
    rw [Profile.sectionContexts] at hc
    obtain ⟨hevaluation, hintro⟩ := learnerEvaluation_of_mem c hc
    rw [SectionFragment.marks_fragmentUnder, hintro hother, if_neg Bool.false_ne_true,
      List.nil_append]
    exact SectionView.marks_of_other n answers p c (hevaluation.trans hother)
  intro hevaluation f rest hfs := by
    rw [Profile.placedSections, Profile.sectionContexts, hevaluation] at hfs
    cases hsections : s.sections with
    | nil =>
        rw [hsections] at hfs
        cases hfs
    | cons n ns =>
        rw [hsections] at hlength hfs
        obtain ⟨number, numbers, rfl⟩ := List.exists_cons_of_length_eq_add_one hlength
        obtain ⟨c, hcontexts, -, hintro, -⟩ :=
          sectionContextsFrom_cons s.step.title true 0 0 n ns
        rw [hcontexts, List.zip_cons_cons, List.zipWith_cons_cons, List.cons_eq_cons] at hfs
        obtain ⟨rfl, rfl⟩ := hfs
        have hview := SectionView.intro_not_mem_marks (SectionView.ofSection n answers p c)
        refine ⟨?_, fun g hg => ?_⟩
        · rw [SectionFragment.marks_fragmentUnder, hintro, List.count_append,
            List.count_eq_zero.mpr hview]
          rfl
        · obtain ⟨⟨m, d⟩, hmem, number, rfl⟩ := exists_of_mem_zipWith hg
          have hlater := showLearnerIntro_of_later Nat.one_ne_zero d (List.of_mem_zip hmem).2
          rw [SectionFragment.marks_fragmentUnder, hlater, if_neg Bool.false_ne_true,
            List.nil_append]
          exact SectionView.intro_not_mem_marks _
  others f hf hother := by
    obtain ⟨⟨n, c⟩, -, number, rfl⟩ := exists_of_mem_zipWith hf
    rw [SectionFragment.tableMarks_fragmentUnder]
    have hview : (fragmentUnder answers p (n, c) number).view =
        SectionView.ofSection n answers p c := by
      simp only [fragmentUnder, SectionFragment.ofSection]
    rw [hview] at hother
    exact SectionView.marks_of_not_isLikert hother
  tables hevaluation := by
    intro tables
    have hmarks : tables.map (·.tableMarks) = shownMarks false (p.shownFlags s.sections) := by
      have hfrom := p.tables_from answers s.step.title 0 0 s.sections hlength
      rw [← hevaluation] at hfrom
      exact hfrom
    have hcount : tables.length = (p.shownFlags s.sections).count true := by
      rw [← shownMarks_length false, ← hmarks, List.length_map]
    rw [hmarks, hcount, shownMarks_eq_iff, showsEnds_iff]

/-! ## The marks of a document -/

/-- The sections of some steps under numbers fall into parts, one for each step. -/
theorem exists_stepParts (steps : List StepNode) {numbers : List (Option Int)}
    (hlength : numbers.length = (p.placed steps).length) :
    ∃ parts, List.Forall₂ p.StepMarks steps parts ∧
      List.zipWith (fragmentUnder answers p) (p.placed steps) numbers = parts.flatten := by
  induction steps generalizing numbers with
  | nil => exact ⟨[], .nil, rfl⟩
  | cons s steps ih =>
      -- The first step takes as many numbers as it has sections, and the others the rest.
      have hsections : (p.placedSections s).length = s.sections.length := by
        rw [← placedSections_fst p s, List.length_map]
      have hplaced : p.placed (s :: steps) = p.placedSections s ++ p.placed steps :=
        List.flatMap_cons
      rw [hplaced, List.length_append] at hlength
      obtain ⟨here, behind, rfl, hhere⟩ :
          ∃ here behind, numbers = here ++ behind ∧ here.length = (p.placedSections s).length :=
        ⟨_, _, (List.take_append_drop (p.placedSections s).length numbers).symm, by
          rw [List.length_take]
          omega⟩
      rw [List.length_append, hhere, Nat.add_left_cancel_iff] at hlength
      obtain ⟨parts, hparts, hflatten⟩ := ih hlength
      have hmarks : p.StepMarks s
          (List.zipWith (fragmentUnder answers p) (p.placedSections s) here) :=
        stepMarks s (hhere.trans hsections)
      refine ⟨_, .cons hmarks hparts, ?_⟩
      rw [hplaced, List.zipWith_append hhere.symm, hflatten, List.flatten_cons]

/-- The marks of a document.  Its fragments fall into parts, one for each step, and in each part the
    marks of a learner evaluation stand where they belong: none in any other step, the introduction
    in the first section of the evaluation alone, and a page break and a bar in no view but rating
    tables.  The tables of an evaluation start pages and end with a bar as those of an appendix just
    where the first and the last section in their mode are shown as tables, or none is. -/
theorem bodyPages_marks (answers : AnswerBook) (p : Profile) (groups : List PageGroup)
    (start : Int) :
    ∃ parts, List.Forall₂ p.StepMarks (groups.flatMap PageGroup.steps) parts ∧
      (bodyPages answers p groups start).1.flatMap (·.fragments) = parts.flatten := by
  rw [bodyPages_fragments]
  refine exists_stepParts _ ?_
  rw [Profile.numbersOf, headingNumbers_length, numberedSections_flatMap, List.length_map,
    placed_length]

/-- A learner evaluation whose sections have these titles and are all in the mode of rating
    tables. -/
def evaluationOf (titles : List String) : StepNode :=
  ⟨{ (default : Step) with title := "Learner Evaluation" },
    titles.map fun title =>
      ⟨{ (default : Section) with title := title, modeText := some "likert_table" }, []⟩⟩

/-- The marks of the rating tables in a document that is such an evaluation. -/
def evaluationTables (titles : List String) : List (List LayoutMark) :=
  (((bodyPages default .standard [.single (evaluationOf titles)] 1).1.flatMap
    (·.fragments)).filter (·.view.isLikert)).map (·.tableMarks)

/-- With the participant's details in front of it, the only table starts a page; with them behind
    it, no bar ends it. -/
theorem evaluation_marks_lost :
    evaluationTables ["Participant Information", "Training"] = [[.pageBreak, .closingBar]] ∧
      evaluationTables ["Training", "Participant Information"] = [[]] ∧
      appendixMarks 1 = [[.closingBar]] := by
  refine ⟨?_, ?_, rfl⟩
  · decide +kernel
  · decide +kernel

end FormPress
