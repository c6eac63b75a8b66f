/-
  FormPress.Proofs.Pages.Numbering

  The heading numbers of a document body.  A section either consumes a number
  or not, and most of those that consume one show it; the number shown is the
  start plus the number of consuming sections before it
  (`headingNumbers_getElem?`).  Since the fragments of a body are its sections
  in document order (`Fragments`), the numbers of the pages follow.
-/
import FormPress.Proofs.Pages.Fragments
import Mathlib.Tactic.Ring

namespace FormPress

/-! ## Sections that consume a number -/

namespace Profile

variable (p : Profile)

/-- Whether a section of a step consumes a heading number: not in the learner evaluation, and of the
    declarations only the final one and the one for office use. -/
def consumes (x : StepNode × SectionNode) : Bool :=
  !p.isLearnerEvaluation x.1 &&
    (x.2.header.mode != .declarations || x.2.header.effectiveKind == .finalDeclaration ||
      x.2.header.effectiveKind == .officeUse)

/-- Whether a section of a step shows the number that it consumes. -/
def showsNumber (x : StepNode × SectionNode) : Bool :=
  p.consumes x && x.2.header.mode != .reasonableAdjustment

/-- Whether a section of a step consumes a number without showing it. -/
def consumesSilently (x : StepNode × SectionNode) : Bool :=
  p.consumes x && x.2.header.mode == .reasonableAdjustment

/-- A section of a step with whether the step is numbered. -/
def numberedSection (x : StepNode × SectionNode) : Section × Bool :=
  (x.2.header, !p.isLearnerEvaluation x.1)

/-- A number that is shown is consumed. -/
theorem showsNumber_consumes {x : StepNode × SectionNode} (h : p.showsNumber x = true) :
    p.consumes x = true := by
  simp only [showsNumber, Bool.and_eq_true] at h
  exact h.1

/-- A section that shows no number consumes one only silently. -/
theorem consumes_eq_silently {x : StepNode × SectionNode} (h : p.showsNumber x = false) :
    p.consumes x = p.consumesSilently x := by
  simp only [showsNumber, Bool.and_eq_false_iff] at h
  rcases h with h | h
  · simp [consumesSilently, h]
  · simp only [bne_eq_false_iff_eq] at h
    simp [consumesSilently, h]

/-- A section shows the number of the counter or none, and moves it on by one or not at all. -/
theorem headingNumber_eq (x : StepNode × SectionNode) (counter : Int) :
    headingNumber (p.numberedSection x).1 counter (p.numberedSection x).2 =
      (if p.showsNumber x then some counter else none,
        counter + if p.consumes x then 1 else 0) := by
  obtain ⟨s, n⟩ := x
  -- Rewriting, unlike simplifying, reaches the conditions' decision procedures as well.
  rw [numberedSection, headingNumber, Section.numbering, showsNumber, consumes]
  dsimp only
  generalize p.isLearnerEvaluation s = evaluation
  generalize n.header.effectiveKind = kind
  generalize n.header.mode = mode
  cases evaluation with
  | true => simp
  | false =>
      -- Of the seven modes only the declarations look at the kind.
      cases mode with
      | declarations => cases kind <;> simp [DeclarationKind.numbering]
      | _ => simp

end Profile

/-! ## A pass over a list of sections -/

section Pass

variable (p : Profile)

/-- The first section takes its number from the start, and the others go on from there. -/
theorem headingNumbers_cons (x : StepNode × SectionNode) (rest : List (StepNode × SectionNode))
    (start : Int) :
    headingNumbers ((x :: rest).map p.numberedSection) start =
      ((if p.showsNumber x then some start else none) ::
          (headingNumbers (rest.map p.numberedSection)
            (start + if p.consumes x then 1 else 0)).1,
        (headingNumbers (rest.map p.numberedSection)
          (start + if p.consumes x then 1 else 0)).2) := by
  rw [List.map_cons, headingNumbers, p.headingNumber_eq]

/-- The counter after a pass has moved on by the number of consuming sections. -/
theorem headingNumbers_counter (xs : List (StepNode × SectionNode)) (start : Int) :
    (headingNumbers (xs.map p.numberedSection) start).2 = start + xs.countP p.consumes := by
  induction xs generalizing start with
  | nil => simp [headingNumbers]
  | cons x rest ih =>
      rw [headingNumbers_cons, List.countP_cons, ih]
      generalize p.consumes x = consumed
      cases consumed with
      | false => simp
      | true =>
          simp only [if_true]
          omega

/-- The number of a section is the start and the number of consuming sections before it. -/
theorem headingNumbers_getElem? (xs : List (StepNode × SectionNode)) (start : Int) (i : Nat) :
    (headingNumbers (xs.map p.numberedSection) start).1[i]? =
      xs[i]?.map fun x =>
        if p.showsNumber x then some (start + (xs.take i).countP p.consumes) else none := by
  induction xs generalizing start i with
  | nil => simp [headingNumbers]
  | cons x rest ih =>
      rw [headingNumbers_cons]
      cases i with
      | zero => simp
      | succ i =>
          have hcount : ((rest.take i).countP p.consumes : Int) + (if p.consumes x then 1 else 0) =
              ((x :: rest).take (i + 1)).countP p.consumes := by
            rw [List.take_succ_cons, List.countP_cons]
            generalize p.consumes x = consumed
            cases consumed <;> simp
          have hnumber : start + (if p.consumes x then 1 else 0) +
                ((rest.take i).countP p.consumes : Int) =
              start + (((x :: rest).take (i + 1)).countP p.consumes : Int) := by
            rw [← hcount]
            ring
          rw [List.getElem?_cons_succ, ih, hnumber, List.getElem?_cons_succ]

/-- No number shown is below the start. -/
theorem le_of_mem_headingNumbers (xs : List (StepNode × SectionNode)) (start k : Int)
    (hk : k ∈ (headingNumbers (xs.map p.numberedSection) start).1.filterMap id) : start ≤ k := by
  simp only [List.mem_filterMap, id, exists_eq_right] at hk
  obtain ⟨i, hi⟩ := List.mem_iff_getElem?.mp hk
  -- A number is the start plus a count, by its place.
  rw [headingNumbers_getElem?] at hi
  obtain ⟨x, -, hx⟩ := Option.map_eq_some_iff.mp hi
  split at hx
  · have hkeq := Option.some.inj hx
    omega
  · cases hx

/-- The numbers shown in a pass strictly increase. -/
theorem headingNumbers_increasing (xs : List (StepNode × SectionNode)) (start : Int) :
    ((headingNumbers (xs.map p.numberedSection) start).1.filterMap id).Pairwise (· < ·) := by
  induction xs generalizing start with
  | nil => simp [headingNumbers]
  | cons x rest ih =>
      rw [headingNumbers_cons]
      cases hshow : p.showsNumber x with
      | false => simpa using ih _
      | true =>
          rw [p.showsNumber_consumes hshow]
          simp only [if_true, List.filterMap_cons, id, List.pairwise_cons]
          -- All that comes later starts one above the number shown.
          refine ⟨?_, ih _⟩
          intro k hk
          have hle := le_of_mem_headingNumbers p rest (start + 1) k hk
          omega

/-- A list up to a place `j` after an element at `i`: what comes before `i`, the element, and what
    stands between the two places. -/
theorem take_eq_take_append {α : Type} {xs : List α} {x : α} {i j : Nat} (hij : i < j)
    (hi : xs[i]? = some x) : xs.take j = xs.take i ++ x :: (xs.take j).drop (i + 1) := by
  obtain ⟨hlt, hx⟩ := List.getElem?_eq_some_iff.mp hi
  have hlen : i < (xs.take j).length := by
    rw [List.length_take]
    omega
  have hget : (xs.take j)[i] = x := by rw [List.getElem_take, hx]
  have htake : (xs.take j).take i = xs.take i := by
    rw [List.take_take, Nat.min_eq_left (Nat.le_of_lt hij)]
  calc xs.take j = (xs.take j).take i ++ (xs.take j).drop i := (List.take_append_drop ..).symm
    _ = xs.take i ++ x :: (xs.take j).drop (i + 1) := by
        rw [htake, List.drop_eq_getElem_cons hlen, hget]

/-- Two successive numbers of a pass differ by one and the number of sections between them that
    consume a number silently. -/
theorem headingNumbers_gap (xs : List (StepNode × SectionNode)) (start : Int) {i j : Nat}
    {a b : Int} (hij : i < j)
    (hi : (headingNumbers (xs.map p.numberedSection) start).1[i]? = some (some a))
    (hj : (headingNumbers (xs.map p.numberedSection) start).1[j]? = some (some b))
    (hbetween : ∀ k, i < k → k < j →
      (headingNumbers (xs.map p.numberedSection) start).1[k]? = some none) :
    b = a + 1 + ((xs.take j).drop (i + 1)).countP p.consumesSilently := by
  simp only [headingNumbers_getElem?, Option.map_eq_some_iff] at hi hj hbetween
  obtain ⟨x, hx, hxa⟩ := hi
  obtain ⟨y, -, hyb⟩ := hj
  -- The sections at both places show a number, since one stands there.
  have hshow : p.showsNumber x = true := by
    by_contra hno
    simp [hno] at hxa
  have hshow' : p.showsNumber y = true := by
    by_contra hno
    simp [hno] at hyb
  simp only [hshow, if_true, Option.some.injEq] at hxa
  simp only [hshow', if_true, Option.some.injEq] at hyb
  -- Between the two places no section shows a number, so those that consume one do so silently.
  have hslice : ((xs.take j).drop (i + 1)).countP p.consumes =
      ((xs.take j).drop (i + 1)).countP p.consumesSilently := by
    apply List.countP_congr
    intro z hz
    obtain ⟨k, hk⟩ := List.mem_iff_getElem?.mp hz
    rw [List.getElem?_drop] at hk
    have hkj : i + 1 + k < j := by
      have hlt := (List.getElem?_eq_some_iff.mp hk).1
      rw [List.length_take] at hlt
      omega
    rw [List.getElem?_take_of_lt hkj] at hk
    obtain ⟨w, hw, hnone⟩ := hbetween (i + 1 + k) (by omega) hkj
    obtain rfl : z = w := Option.some.inj (hk.symm.trans hw)
    have hno : p.showsNumber z = false := by
      by_contra hyes
      simp [hyes] at hnone
    rw [p.consumes_eq_silently hno]
  -- What is before `j` is what is before `i`, the section at `i`, and the slice between.
  have hcount : (xs.take j).countP p.consumes =
      (xs.take i).countP p.consumes + 1 + ((xs.take j).drop (i + 1)).countP p.consumesSilently := by
    rw [← hslice]
    conv_lhs => rw [take_eq_take_append hij hx]
    rw [List.countP_append, List.countP_cons_of_pos (p.showsNumber_consumes hshow)]
    omega
  omega

end Pass

/-! ## The numbers of a body -/

section Body

variable (answers : AnswerBook) (p : Profile) (groups : List PageGroup) (start : Int)

/-- The numbers of some steps are those of one pass over their sections. -/
theorem numbersOf_eq (steps : List StepNode) :
    p.numbersOf steps start = headingNumbers ((sectionsOf steps).map p.numberedSection) start := by
  rw [Profile.numbersOf, numberedSections_flatMap]
  rfl

/-- There are as many numbers, shown or not, as placed sections. -/
theorem numbersOf_length (steps : List StepNode) :
    (p.numbersOf steps start).1.length = (p.placed steps).length := by
  rw [numbersOf_eq, headingNumbers_length, List.length_map, placed_length]

/-- The fragments of a body carry the numbers of the pass over its sections. -/
theorem bodyPages_headingNumbers :
    ((bodyPages answers p groups start).1.flatMap (·.fragments)).map (·.headingNumber) =
      (p.numbersOf (groups.flatMap PageGroup.steps) start).1 := by
  have hlen := numbersOf_length p start (groups.flatMap PageGroup.steps)
  rw [bodyPages_fragments, List.map_zipWith]
  simp only [fragmentUnder_headingNumber]
  exact zipWith_snd _ _ (Nat.le_of_eq hlen)

/-- The fragments of a body belong to the sections of its steps, one to each and in order. -/
theorem bodyPages_sections :
    ((bodyPages answers p groups start).1.flatMap (·.fragments)).map
        (fun f => (f.sectionId, f.mode)) =
      (sectionsOf (groups.flatMap PageGroup.steps)).map
        fun x => (x.2.header.id, x.2.header.mode) := by
  have hlen := numbersOf_length p start (groups.flatMap PageGroup.steps)
  have hfst := placed_fst p (groups.flatMap PageGroup.steps)
  rw [bodyPages_fragments, List.map_zipWith]
  simp only [fragmentUnder_sectionId, fragmentUnder_mode]
  rw [zipWith_fst (fun x : SectionNode × SectionContext => (x.1.header.id, x.1.header.mode)) _ _
    (Nat.le_of_eq hlen.symm)]
  calc (p.placed (groups.flatMap PageGroup.steps)).map
          (fun x => (x.1.header.id, x.1.header.mode))
      = ((p.placed (groups.flatMap PageGroup.steps)).map Prod.fst).map
          (fun n => (n.header.id, n.header.mode)) := by rw [List.map_map]; rfl
    _ = (sectionsOf (groups.flatMap PageGroup.steps)).map
          (fun x => (x.2.header.id, x.2.header.mode)) := by rw [hfst, List.map_map]; rfl

/-- The fragment at a place of a body is made of the section at that place, under the number that
    it carries. -/
theorem bodyPages_fragment_ofSection {i : Nat} {f : SectionFragment}
    (hf : ((bodyPages answers p groups start).1.flatMap (·.fragments))[i]? = some f) :
    ∃ x c, (sectionsOf (groups.flatMap PageGroup.steps))[i]? = some x ∧
      f = .ofSection x.2 answers p f.headingNumber c := by
  rw [bodyPages_fragments, List.getElem?_zipWith_eq_some] at hf
  obtain ⟨⟨n, c⟩, number, hplaced, -, rfl⟩ := hf
  have hsection : ((sectionsOf (groups.flatMap PageGroup.steps)).map Prod.snd)[i]? = some n := by
    rw [← placed_fst p, List.getElem?_map, hplaced]
    rfl
  rw [List.getElem?_map, Option.map_eq_some_iff] at hsection
  obtain ⟨x, hx, rfl⟩ := hsection
  refine ⟨x, c, hx, ?_⟩
  rw [fragmentUnder_headingNumber, fragmentUnder]

end Body

/-- The sections of a document in its pages: none is lost, repeated or moved, each is made under the
    number that its place gives it, and the counter ends after all that consume one.  How the steps
    are cut into pages makes no difference, and the numbers shown leave out no more than those that
    sections on reasonable adjustment consume. -/
theorem bodyPages_numbered_in_order (answers : AnswerBook) (p : Profile) (steps : List StepNode)
    (start : Int) :
    let sections := sectionsOf steps
    let body := bodyPages answers p (PageGroup.plan steps) start
    let fragments : List SectionFragment := body.1.flatMap (·.fragments)
    let numbers : List (Option Int) := fragments.map (·.headingNumber)
    fragments.map (fun f => (f.sectionId, f.mode)) =
        sections.map (fun x => (x.2.header.id, x.2.header.mode)) ∧
      (∀ (i : Nat) (f : SectionFragment), fragments[i]? = some f →
        ∃ x c, sections[i]? = some x ∧ f = .ofSection x.2 answers p f.headingNumber c) ∧
      (∀ i : Nat, numbers[i]? = sections[i]?.map fun x =>
        if p.showsNumber x then some (start + (sections.take i).countP p.consumes) else none) ∧
      body.2 = start + sections.countP p.consumes ∧
      (∀ groups : List PageGroup, groups.flatMap PageGroup.steps = steps →
        (bodyPages answers p groups start).1.flatMap (·.fragments) = fragments ∧
          (bodyPages answers p groups start).2 = body.2) ∧
      (numbers.filterMap id).Pairwise (· < ·) ∧
      (∀ (i j : Nat) (a b : Int), i < j →
        numbers[i]? = some (some a) → numbers[j]? = some (some b) →
        (∀ k : Nat, i < k → k < j → numbers[k]? = some none) →
        b = a + 1 + ((sections.take j).drop (i + 1)).countP p.consumesSilently) := by
  intro sections body fragments numbers
  -- Everything is proved of the steps of the groups, which for a plan are the steps.
  have hsteps := plan_steps steps
  have hnumbers : numbers = (headingNumbers (sections.map p.numberedSection) start).1 := by
    rw [← numbersOf_eq, ← hsteps]
    exact bodyPages_headingNumbers ..
  refine ⟨?_, ?_, ?_, ?_, ?_, ?_, ?_⟩
  · have h := bodyPages_sections answers p (PageGroup.plan steps) start
    rwa [hsteps] at h
  · intro i f hf
    have h := bodyPages_fragment_ofSection answers p (PageGroup.plan steps) start hf
    rwa [hsteps] at h
  · intro i
    rw [hnumbers, headingNumbers_getElem?]
  · rw [← headingNumbers_counter, ← numbersOf_eq, ← hsteps]
    exact bodyPages_counter ..
  · intro groups hgroups
    have hsame : groups.flatMap PageGroup.steps = (PageGroup.plan steps).flatMap PageGroup.steps :=
      hgroups.trans hsteps.symm
    constructor
    · rw [bodyPages_fragments, hsame]
      exact (bodyPages_fragments ..).symm
    · rw [bodyPages_counter, hsame]
      exact (bodyPages_counter ..).symm
  · rw [hnumbers]
    exact headingNumbers_increasing p sections start
  · intro i j a b hij hi hj hbetween
    rw [hnumbers] at hi hj hbetween
    exact headingNumbers_gap p sections start hij hi hj hbetween

end FormPress
