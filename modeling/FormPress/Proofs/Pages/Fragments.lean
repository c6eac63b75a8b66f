/-
  FormPress.Proofs.Pages.Fragments

  The fragments of a document body as one list.  Pages take their heading
  numbers from the front of a common supply and leave the rest to the pages
  after them (`fragmentsOf_eq`), so over all pages the fragments are the
  sections in document order zipped with the numbers (`bodyPages_fragments`).
  Nothing here depends on how the steps were cut into groups: only the
  concatenation of the groups matters.
-/
import FormPress.Document.Body

namespace FormPress

/-! ## Sections in document order -/

/-- The sections of some steps in document order, each with its step. -/
def sectionsOf (steps : List StepNode) : List (StepNode × SectionNode) :=
  steps.flatMap fun s => s.sections.map fun n => (s, n)

/-- The sections of some steps in their surroundings, in document order. -/
def Profile.placed (p : Profile) (steps : List StepNode) : List (SectionNode × SectionContext) :=
  steps.flatMap p.placedSections

/-- Every section of a step has its surroundings. -/
theorem sectionContextsFrom_length (title : String) (evaluation : Bool) (i before : Nat)
    (ns : List SectionNode) :
    (sectionContextsFrom title evaluation i before ns).length = ns.length := by
  induction ns generalizing i before with
  | nil => rfl
  | cons n rest ih => simp only [sectionContextsFrom, List.length_cons, ih]

/-- Every section of a step is placed, and none twice. -/
theorem placedSections_fst (p : Profile) (s : StepNode) :
    (p.placedSections s).map Prod.fst = s.sections := by
  rw [Profile.placedSections, List.map_fst_zip]
  exact Nat.le_of_eq (sectionContextsFrom_length ..).symm

/-- The placed sections of steps in a row are those of the first and those of the second. -/
theorem placed_append (p : Profile) (xs ys : List StepNode) :
    p.placed (xs ++ ys) = p.placed xs ++ p.placed ys := by
  rw [Profile.placed, List.flatMap_append, Profile.placed, Profile.placed]

/-- Placing the sections of some steps keeps them and their order. -/
theorem placed_fst (p : Profile) (steps : List StepNode) :
    (p.placed steps).map Prod.fst = (sectionsOf steps).map Prod.snd := by
  simp only [Profile.placed, sectionsOf, List.map_flatMap, placedSections_fst, List.map_map,
    Function.comp_def, List.map_id']

theorem placed_length (p : Profile) (steps : List StepNode) :
    (p.placed steps).length = (sectionsOf steps).length := by
  -- Both are as long as the list of their sections.
  have h := congrArg List.length (placed_fst p steps)
  simpa using h

/-- Every placed section of a snapshot is one of its sections. -/
theorem placed_mem_sections {p : Profile} {s : Snapshot} {x : SectionNode × SectionContext}
    (hx : x ∈ p.placed s.steps) : x.1 ∈ s.sections := by
  have hmem := List.mem_map_of_mem (f := Prod.fst) hx
  rw [placed_fst] at hmem
  simpa [sectionsOf, Snapshot.sections] using hmem

/-- Every placed section of a snapshot has questions of the snapshot. -/
theorem placed_questions {p : Profile} {s : Snapshot} {x : SectionNode × SectionContext}
    (hx : x ∈ p.placed s.steps) : ∀ q ∈ x.1.questions, q ∈ s.questions := fun _ hq =>
  List.mem_flatMap.mpr ⟨x.1, placed_mem_sections hx, hq⟩

/-- Every section of a snapshot asks questions of the snapshot. -/
theorem sectionsOf_questions {s : Snapshot} {x : StepNode × SectionNode}
    (hx : x ∈ sectionsOf s.steps) : ∀ q ∈ x.2.questions, q ∈ s.questions := by
  have hsection : x.2 ∈ s.sections := by
    have hmem := List.mem_map_of_mem (f := Prod.snd) hx
    simpa [sectionsOf, Snapshot.sections] using hmem
  exact fun q hq => List.mem_flatMap.mpr ⟨x.2, hsection, hq⟩

/-- The sections that take part in the numbering are those of the steps, in the same order. -/
theorem numberedSections_flatMap (p : Profile) (steps : List StepNode) :
    steps.flatMap p.numberedSections =
      (sectionsOf steps).map fun x => (x.2.header, !p.isLearnerEvaluation x.1) := by
  simp only [sectionsOf, List.map_flatMap, List.map_map]
  rfl

/-! ## Grouping keeps the steps -/

/-- The groups of a plan hold the steps, each once and in order. -/
theorem plan_steps (steps : List StepNode) :
    (PageGroup.plan steps).flatMap PageGroup.steps = steps := by
  induction steps using PageGroup.plan.induct with
  | case1 => rfl
  | case2 a => rfl
  -- The two cases of a step with another behind it differ in the group alone.
  | case3 a b rest hshare ih =>
      rw [PageGroup.plan, if_pos hshare, List.flatMap_cons, ih]
      rfl
  | case4 a b rest hshare ih =>
      rw [PageGroup.plan, if_neg hshare, List.flatMap_cons, ih]
      rfl

/-! ## Numbers are taken from the front -/

/-- A placed section under a number. -/
def fragmentUnder (answers : AnswerBook) (p : Profile) (x : SectionNode × SectionContext)
    (number : Option Int) : SectionFragment :=
  .ofSection x.1 answers p number x.2

section

variable (answers : AnswerBook) (p : Profile) (x : SectionNode × SectionContext)
  (number : Option Int)

@[simp] theorem fragmentUnder_sectionId :
    (fragmentUnder answers p x number).sectionId = x.1.header.id := by
  simp only [fragmentUnder, SectionFragment.ofSection]

@[simp] theorem fragmentUnder_mode :
    (fragmentUnder answers p x number).mode = x.1.header.mode := by
  simp only [fragmentUnder, SectionFragment.ofSection]

@[simp] theorem fragmentUnder_headingNumber :
    (fragmentUnder answers p x number).headingNumber = number := by
  simp only [fragmentUnder, SectionFragment.ofSection]

end

/-- The sections of a page take as many numbers as they are, and leave the rest. -/
theorem fragmentsOf_eq (answers : AnswerBook) (p : Profile)
    (xs : List (SectionNode × SectionContext)) (numbers : List (Option Int)) :
    fragmentsOf answers p xs numbers =
      (List.zipWith (fragmentUnder answers p) xs numbers, numbers.drop xs.length) := by
  induction xs generalizing numbers with
  | nil => cases numbers <;> rfl
  | cons x rest ih =>
      cases numbers with
      | nil => rfl
      | cons number numbers =>
          obtain ⟨n, c⟩ := x
          rw [fragmentsOf, ih]
          rfl

theorem zipWith_append_left {α β γ : Type} (f : α → β → γ) (xs ys : List α) (zs : List β) :
    List.zipWith f (xs ++ ys) zs =
      List.zipWith f xs zs ++ List.zipWith f ys (zs.drop xs.length) := by
  induction xs generalizing zs with
  | nil => simp
  | cons x xs ih =>
      cases zs with
      | nil => simp
      | cons z zs => simp [ih]

theorem zipWith_fst {α β γ : Type} (g : α → γ) (xs : List α) (ys : List β)
    (h : xs.length ≤ ys.length) : List.zipWith (fun x _ => g x) xs ys = xs.map g := by
  calc List.zipWith (fun x _ => g x) xs ys
      = ((xs.zip ys).map Prod.fst).map g := by
        rw [List.zip_eq_zipWith, List.map_zipWith, List.map_zipWith]
    _ = xs.map g := by rw [List.map_fst_zip h]

theorem zipWith_snd {α β : Type} (xs : List α) (ys : List β) (h : ys.length ≤ xs.length) :
    List.zipWith (fun _ y => y) xs ys = ys := by
  calc List.zipWith (fun _ y => y) xs ys
      = (xs.zip ys).map Prod.snd := by rw [List.zip_eq_zipWith, List.map_zipWith]
    _ = ys := List.map_snd_zip h

/-- The fragments of all pages are the placed sections under the numbers, in order. -/
theorem bodyPagesFrom_fragments (answers : AnswerBook) (p : Profile) (groups : List PageGroup)
    (numbers : List (Option Int)) :
    (bodyPagesFrom answers p groups numbers).flatMap (·.fragments) =
      List.zipWith (fragmentUnder answers p) (p.placed (groups.flatMap PageGroup.steps))
        numbers := by
  induction groups generalizing numbers with
  | nil => simp [bodyPagesFrom, Profile.placed]
  | cons g groups ih =>
      -- The pages behind the first are made with the numbers that it leaves.
      rw [bodyPagesFrom, fragmentsOf_eq]
      simp only [List.flatMap_cons, ih]
      rw [placed_append, zipWith_append_left]
      rfl

/-! ## The numbers of a list of sections -/

/-- Every section has a number or goes without one. -/
theorem headingNumbers_length (xs : List (Section × Bool)) (start : Int) :
    (headingNumbers xs start).1.length = xs.length := by
  induction xs generalizing start with
  | nil => rfl
  | cons x rest ih => simp only [headingNumbers, List.length_cons, ih]

/-- The heading numbers of the sections of some steps, and the counter after them. -/
def Profile.numbersOf (p : Profile) (steps : List StepNode) (start : Int) :
    List (Option Int) × Int :=
  headingNumbers (steps.flatMap p.numberedSections) start

/-- The fragments of a body depend on its groups only through their steps. -/
theorem bodyPages_fragments (answers : AnswerBook) (p : Profile) (groups : List PageGroup)
    (start : Int) :
    (bodyPages answers p groups start).1.flatMap (·.fragments) =
      List.zipWith (fragmentUnder answers p) (p.placed (groups.flatMap PageGroup.steps))
        (p.numbersOf (groups.flatMap PageGroup.steps) start).1 := by
  rw [bodyPages, bodyPagesFrom_fragments]
  rfl

/-- The counter after a body depends on its groups only through their steps. -/
theorem bodyPages_counter (answers : AnswerBook) (p : Profile) (groups : List PageGroup)
    (start : Int) :
    (bodyPages answers p groups start).2 =
      (p.numbersOf (groups.flatMap PageGroup.steps) start).2 := rfl

end FormPress
