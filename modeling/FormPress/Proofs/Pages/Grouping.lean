/-
  FormPress.Proofs.Pages.Grouping

  The pages of a plan among all cuts of the steps into pages.  A cut puts single
  steps and pairs that may share a page behind each other (`PageCut`), and it is
  greedy where no step stands alone in front of one that it could share its page
  with (`GreedyCut`).  The plan is the one greedy cut (`greedyCut_iff_plan`), and
  no cut has fewer pages (`plan_fewest`).

  Both are inductions on the groups of a cut, whose first group says how the
  steps begin (`PageCut.head_cases`).  For the second one it is enough that a
  step in front adds one page at most (`plan_cons_length`).
-/
import FormPress.Pages.Grouping
import FormPress.Proofs.Pages.Fragments
import Mathlib.Data.List.Chain

namespace FormPress

/-! ## Titles that share a page -/

/-- The search for a text looks at every end of the one searched. -/
theorem Text.containsChars_iff {needle s : List Char} :
    containsChars needle s = true ↔ needle <:+: s := by
  induction s with
  | nil => rw [containsChars, List.isEmpty_iff, List.infix_nil]
  | cons c rest ih =>
      rw [containsChars, Bool.or_eq_true, List.isPrefixOf_iff_prefix, ih, List.infix_cons_iff]

/-- A text contains another one just where the other's characters stand in it in a row. -/
theorem Text.contains_iff {s needle : String} :
    contains s needle = true ↔ needle.toList <:+: s.toList := containsChars_iff

/-- By their titles in small letters, the one step is about the student and the trainer and the
    other one about the qualification. -/
def StepNode.PairsWith (a b : StepNode) : Prop :=
  "student".toList <:+: (Text.lower a.step.title).toList ∧
    "trainer".toList <:+: (Text.lower a.step.title).toList ∧
    "qualification".toList <:+: (Text.lower b.step.title).toList

/-- The program pairs two steps just where their titles are of the two kinds. -/
theorem sharePage_iff {a b : StepNode} : sharePage a b = true ↔ a.PairsWith b := by
  simp only [sharePage, isStudentTrainerTitle, isQualificationTitle, Bool.and_eq_true,
    Text.contains_iff, StepNode.PairsWith, and_assoc]

/-- A step has no partner right behind it. -/
def StepNode.Unpaired (a : StepNode) (rest : List StepNode) : Prop :=
  ∀ b ∈ rest.head?, ¬ a.PairsWith b

theorem StepNode.unpaired_cons_iff {a b : StepNode} {rest : List StepNode} :
    a.Unpaired (b :: rest) ↔ ¬ a.PairsWith b := by
  simp only [Unpaired, List.head?_cons, Option.mem_some_iff, forall_eq']

/-! ## Cuts into pages -/

/-- A cut of some steps into pages of one step and pages of two that may share one. -/
structure PageCut (steps : List StepNode) (groups : List (List StepNode)) : Prop where
  whole : groups.flatten = steps
  sizes : ∀ g ∈ groups, g.length = 1 ∨ g.length = 2
  pairs : ∀ a b, [a, b] ∈ groups → a.PairsWith b

/-- Whether a page holds a single step and the page behind it begins with a partner for it. -/
def KeptApart (g next : List StepNode) : Prop :=
  ∃ a b rest, g = [a] ∧ next = b :: rest ∧ a.PairsWith b

/-- A cut that keeps no step apart from a partner right behind it. -/
structure GreedyCut (steps : List StepNode) (groups : List (List StepNode)) : Prop
    extends PageCut steps groups where
  merged : groups.IsChain fun g next => ¬ KeptApart g next

section

variable {steps rest : List StepNode} {groups : List (List StepNode)} {g : List StepNode}
  {a b : StepNode}

/-! ## The first page of a cut -/

/-- Without its first page a cut is one of the steps on the other pages. -/
theorem PageCut.tail (h : PageCut steps (g :: groups)) : PageCut groups.flatten groups where
  whole := rfl
  sizes := fun g' hg' => h.sizes g' (List.mem_cons_of_mem _ hg')
  pairs := fun a b hab => h.pairs a b (List.mem_cons_of_mem _ hab)

/-- The first page of a cut holds the first step, alone or with a partner. -/
theorem PageCut.head_cases (h : PageCut steps (g :: groups)) :
    (∃ a, g = [a] ∧ steps = a :: groups.flatten) ∨
      ∃ a b, g = [a, b] ∧ a.PairsWith b ∧ steps = a :: b :: groups.flatten := by
  -- The size of the page says which of the two it is, and the steps follow from the whole.
  have hwhole := h.whole
  rw [List.flatten_cons] at hwhole
  rcases h.sizes g (List.mem_cons_self ..) with hone | htwo
  · obtain ⟨a, rfl⟩ := List.length_eq_one_iff.mp hone
    exact .inl ⟨a, rfl, hwhole.symm⟩
  · obtain ⟨a, b, rfl⟩ := List.length_eq_two.mp htwo
    exact .inr ⟨a, b, rfl, h.pairs a b (List.mem_cons_self ..), hwhole.symm⟩

/-- The first page begins with the first step. -/
theorem PageCut.head_begins (h : PageCut steps (g :: groups)) :
    ∃ first rest later, g = first :: rest ∧ steps = first :: later := by
  rcases h.head_cases with ⟨a, rfl, hsteps⟩ | ⟨a, b, rfl, -, hsteps⟩
  · exact ⟨a, _, _, rfl, hsteps⟩
  · exact ⟨a, _, _, rfl, hsteps⟩

/-- Without its first page a greedy cut is still greedy. -/
theorem GreedyCut.tail (h : GreedyCut steps (g :: groups)) : GreedyCut groups.flatten groups where
  toPageCut := h.toPageCut.tail
  merged := (List.isChain_cons.mp h.merged).2

/-- A step that is alone on its page has no partner right behind it. -/
theorem GreedyCut.unpaired (h : GreedyCut steps ([a] :: groups)) :
    a.Unpaired groups.flatten := by
  cases groups with
  | nil => rintro b ⟨⟩
  | cons next later =>
      -- The step right behind `a` is the one that the next page begins with.
      obtain ⟨b, rest, _, rfl, hbegins⟩ := h.toPageCut.tail.head_begins
      rw [hbegins, StepNode.unpaired_cons_iff]
      intro hpairs
      exact (List.isChain_cons.mp h.merged).1 _ rfl ⟨a, b, rest, rfl, rfl, hpairs⟩

/-! ## A page in front of a cut -/

theorem GreedyCut.nil : GreedyCut [] [] where
  whole := rfl
  sizes := by simp
  pairs := by simp
  merged := .nil

/-- A page of one step or of partners goes in front of any cut. -/
theorem PageCut.cons (h : PageCut rest groups) (hsize : g.length = 1 ∨ g.length = 2)
    (hpairs : ∀ a b, g = [a, b] → a.PairsWith b) : PageCut (g ++ rest) (g :: groups) where
  whole := by rw [List.flatten_cons, h.whole]
  sizes := List.forall_mem_cons.mpr ⟨hsize, h.sizes⟩
  pairs := by
    intro a b hab
    rcases List.mem_cons.mp hab with heq | hab
    · exact hpairs a b heq.symm
    · exact h.pairs a b hab

/-- A step without a partner right behind it goes on a page of its own. -/
theorem GreedyCut.cons_single (h : GreedyCut rest groups) (hunpaired : a.Unpaired rest) :
    GreedyCut (a :: rest) ([a] :: groups) := by
  have hcut : PageCut ([a] ++ rest) ([a] :: groups) :=
    h.toPageCut.cons (.inl rfl) (by rintro _ _ ⟨⟩)
  refine ⟨hcut, List.isChain_cons.mpr ⟨?_, h.merged⟩⟩
  rintro next hnext ⟨_, b, later, heq, rfl, hpairs⟩
  cases heq
  -- The next page begins with the first of the steps, and `a` has no partner there.
  obtain ⟨behind, hgroups⟩ := List.head?_eq_some_iff.mp hnext
  rw [← h.whole, hgroups, List.flatten_cons] at hunpaired
  exact StepNode.unpaired_cons_iff.mp hunpaired hpairs

/-- Two partners go on one page, whatever comes behind them. -/
theorem GreedyCut.cons_pair (h : GreedyCut rest groups) (hpairs : a.PairsWith b) :
    GreedyCut (a :: b :: rest) ([a, b] :: groups) := by
  have hcut : PageCut ([a, b] ++ rest) ([a, b] :: groups) :=
    h.toPageCut.cons (.inr rfl) (by rintro _ _ ⟨⟩; exact hpairs)
  refine ⟨hcut, List.isChain_cons.mpr ⟨?_, h.merged⟩⟩
  rintro next - ⟨_, _, _, heq, -, -⟩
  cases heq

/-! ## The plan as a cut -/

namespace PageGroup

/-- The plan puts two partners at the front on one page. -/
theorem plan_cons_pair (hpairs : a.PairsWith b) :
    plan (a :: b :: rest) = pair a b :: plan rest := by
  rw [plan, if_pos (sharePage_iff.mpr hpairs)]

/-- The plan leaves a step without a partner right behind it alone. -/
theorem plan_cons_single (hunpaired : a.Unpaired rest) :
    plan (a :: rest) = single a :: plan rest := by
  cases rest with
  | nil => rfl
  | cons b later =>
      rw [StepNode.unpaired_cons_iff, ← sharePage_iff] at hunpaired
      rw [plan, if_neg hunpaired]

/-- The plan is a greedy cut. -/
theorem plan_greedyCut (steps : List StepNode) :
    GreedyCut steps ((plan steps).map PageGroup.steps) := by
  induction steps using plan.induct with
  | case1 => exact .nil
  | case2 a => exact .cons_single .nil (by rintro b ⟨⟩)
  | case3 a b rest hshare ih =>
      have hpairs := sharePage_iff.mp hshare
      rw [plan_cons_pair hpairs]
      exact .cons_pair ih hpairs
  | case4 a b rest hshare ih =>
      have hunpaired : a.Unpaired (b :: rest) := by
        rwa [StepNode.unpaired_cons_iff, ← sharePage_iff]
      rw [plan_cons_single hunpaired]
      exact .cons_single ih hunpaired

/-- A greedy cut has the groups of the plan. -/
theorem eq_plan_of_greedyCut (h : GreedyCut steps groups) :
    groups = (plan steps).map PageGroup.steps := by
  induction groups generalizing steps with
  | nil =>
      rw [← h.whole]
      rfl
  | cons g groups ih =>
      -- By induction the pages behind are those of the plan, so only the first one is compared.
      have htail := ih h.tail
      rcases h.toPageCut.head_cases with ⟨a, rfl, rfl⟩ | ⟨a, b, rfl, hpairs, rfl⟩
      · rw [plan_cons_single h.unpaired, List.map_cons, ← htail]
        rfl
      · rw [plan_cons_pair hpairs, List.map_cons, ← htail]
        rfl

/-- The plan is greedy, and it is the only greedy cut of its steps. -/
theorem greedyCut_iff_plan (steps : List StepNode) (groups : List (List StepNode)) :
    GreedyCut steps groups ↔ groups = (plan steps).map PageGroup.steps := by
  constructor
  · exact eq_plan_of_greedyCut
  · rintro rfl
    exact plan_greedyCut steps

/-! ## The number of pages -/

/-- A step in front of others takes no page away, and adds one at most.  Each half needs the other
    one for the steps behind a pair. -/
theorem plan_cons_length (rest : List StepNode) : ∀ a : StepNode,
    (plan rest).length ≤ (plan (a :: rest)).length ∧
      (plan (a :: rest)).length ≤ (plan rest).length + 1 := by
  induction rest with
  | nil => intro a; exact ⟨Nat.zero_le _, Nat.le_refl _⟩
  | cons b rest ih =>
      intro a
      obtain ⟨hkeeps, hadds⟩ := ih b
      -- A pair takes `b` from the plan behind, which then loses a page at most.
      by_cases hpairs : a.PairsWith b
      · rw [plan_cons_pair hpairs, List.length_cons]
        omega
      · rw [plan_cons_single (StepNode.unpaired_cons_iff.mpr hpairs), List.length_cons]
        omega

/-- No cut of the steps has fewer pages than the plan. -/
theorem plan_fewest (steps : List StepNode) (groups : List (List StepNode))
    (h : PageCut steps groups) : (plan steps).length ≤ groups.length := by
  induction groups generalizing steps with
  | nil =>
      rw [← h.whole]
      exact Nat.le_refl 0
  | cons g groups ih =>
      have htail := ih _ h.tail
      rw [List.length_cons]
      rcases h.head_cases with ⟨a, -, rfl⟩ | ⟨a, b, -, hpairs, rfl⟩
      · -- The plan may pair `a` with the step behind it, but needs no more than its page for it.
        have hadds := (plan_cons_length groups.flatten a).2
        omega
      · -- Both put the pair on one page.
        rw [plan_cons_pair hpairs, List.length_cons]
        omega

/-- Steps with some titles. -/
def stepsTitled (titles : List String) : List StepNode :=
  titles.map fun title => ⟨{ (default : Step) with title := title }, []⟩

/-- Four steps of which each but the last could share its page with the one behind it: a cut that
    keeps the first one alone has three pages, the plan two. -/
theorem plan_fewest_of_overlapping :
    let first := "Student & Trainer"
    let both := "STUDENT, Trainer, Qualification"
    let last := "Qualification"
    let steps := stepsTitled [first, both, both, last]
    let groups := [stepsTitled [first], stepsTitled [both, both], stepsTitled [last]]
    PageCut steps groups ∧ (plan steps).length = 2 ∧ (plan steps).length ≤ groups.length := by
  intro first both last steps groups
  have hcut : PageCut steps groups := by
    refine ⟨rfl, by decide, ?_⟩
    intro a b hab
    have hboth : [a, b] = stepsTitled [both, both] := by
      simpa [groups, stepsTitled] using hab
    cases hboth
    exact sharePage_iff.mp (by decide +kernel)
  exact ⟨hcut, by decide +kernel, plan_fewest steps groups hcut⟩

end PageGroup

end

end FormPress
