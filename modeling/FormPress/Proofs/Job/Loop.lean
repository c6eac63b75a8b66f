/-
  FormPress.Proofs.Job.Loop

  A run as a loop over the stages (`JobRunner.perform`).  What a stage finds out
  is left in a context for the stages after it; `stages_eq` shows that the loop
  is the run.  A loop that fails has a first stage that fails
  (`perform_error`), and a stage fails by its work or by its handler
  (`stage_error`).
-/
import FormPress.Job.Run
import FormPress.Proofs.Steps

namespace FormPress

variable {σ α β : Type}

/-! ## Equations of the steps of a run -/

namespace RunStep

theorem changeJob_apply (f : RenderJob → RenderJob) (r : JobRun σ) :
    changeJob f r = (.ok (), { r with job := f r.job }) := rfl

theorem note_apply (entry : LogEntry) (r : JobRun σ) :
    note entry r = (.ok (), { r with log := r.log ++ [entry] }) := rfl

theorem making_apply (m : Making α) (r : JobRun σ) :
    making m r = ((m (r.shelf, r.log)).1,
      { r with shelf := (m (r.shelf, r.log)).2.1, log := (m (r.shelf, r.log)).2.2 }) := rfl

theorem printing_apply (p : Printing σ α) (r : JobRun σ) :
    printing p r = ((p (r.surroundings, r.log)).1.mapError wrapBackend,
      { r with
        surroundings := (p (r.surroundings, r.log)).2.1
        log := (p (r.surroundings, r.log)).2.2 }) := rfl

theorem tell_apply (runner : JobRunner σ) (k : Stage) (r : JobRun σ) :
    tell runner k r = ((runner.handler k r.job r.surroundings).1,
      { r with surroundings := (runner.handler k r.job r.surroundings).2 }) := rfl

end RunStep

namespace JobRun

/-- The state in which the work of a stage begins. -/
def entered (r : JobRun σ) (k : Stage) : JobRun σ :=
  { r with job := { r.job with progress := k.entered } }

/-- The state after a stage that has passed. -/
def left (r : JobRun σ) (k : Stage) : JobRun σ :=
  { r with job := { r.job with progress := k.left } }

/-- The state after a stage that has failed. -/
def failedIn (r : JobRun σ) (k : Stage) (e : Failure) : JobRun σ :=
  { r with job := r.job.addFlag k.failureFlag, log := r.log ++ [stageFailed r.job k e] }

end JobRun

namespace JobRunner

variable (runner : JobRunner σ)

/-! ## One stage -/

/-- A stage does its work, then its handler is told, and the first of the two that fails makes the
    stage fail. -/
theorem stage_apply (k : Stage) (w : RunStep σ α) (r : JobRun σ) :
    runner.stage k w r = match w (r.entered k) with
      | (.error e, r₁) => (.error e, r₁.failedIn k e)
      | (.ok a, r₁) => match runner.handler k r₁.job r₁.surroundings with
        | (.error e, s) => (.error e, { r₁ with surroundings := s }.failedIn k e)
        | (.ok (), s) => (.ok a, { r₁ with surroundings := s }.left k) := by
  simp only [stage, bind_apply, RunStep.changeJob_apply, tryCatch_apply, RunStep.tell_apply,
    pure_apply, JobRun.entered]
  rcases w { r with job := { r.job with progress := k.entered } } with ⟨e | a, r₁⟩
  · rfl
  rcases hold : runner.handler k r₁.job r₁.surroundings with ⟨e | _, s⟩
  · simp only [hold]
    rfl
  · simp only [hold]
    rfl

/-- What is known of a stage that has passed. -/
theorem stage_ok {k : Stage} {w : RunStep σ α} {r r' : JobRun σ} {a : α}
    (h : runner.stage k w r = (.ok a, r')) :
    ∃ r₁ s, w (r.entered k) = (.ok a, r₁) ∧
      runner.handler k r₁.job r₁.surroundings = (.ok (), s) ∧
      r' = { r₁ with surroundings := s }.left k := by
  rw [stage_apply] at h
  -- Neither the work nor the handler can have failed.
  rcases hw : w (r.entered k) with ⟨e | b, r₁⟩
  · simp only [hw] at h
    cases h
  rcases hold : runner.handler k r₁.job r₁.surroundings with ⟨e | _, s⟩
  · simp only [hw, hold] at h
    cases h
  · simp only [hw, hold] at h
    cases h
    exact ⟨r₁, s, rfl, hold, rfl⟩

/-- A stage fails by its own work or, once that is done, by its handler. -/
theorem stage_error {k : Stage} {w : RunStep σ α} {r r' : JobRun σ} {e : Failure}
    (h : runner.stage k w r = (.error e, r')) :
    (∃ r₁, w (r.entered k) = (.error e, r₁) ∧ r' = r₁.failedIn k e) ∨
      ∃ a r₁ s, w (r.entered k) = (.ok a, r₁) ∧
        runner.handler k r₁.job r₁.surroundings = (.error e, s) ∧
        r' = { r₁ with surroundings := s }.failedIn k e := by
  rw [stage_apply] at h
  -- The work fails, or it is done and the handler fails.
  rcases hw : w (r.entered k) with ⟨d | a, r₁⟩
  · simp only [hw] at h
    cases h
    exact .inl ⟨r₁, rfl, rfl⟩
  rcases hold : runner.handler k r₁.job r₁.surroundings with ⟨d | _, s⟩
  · simp only [hw, hold] at h
    cases h
    exact .inr ⟨a, r₁, s, rfl, hold, rfl⟩
  · simp only [hw, hold] at h
    cases h

/-- What is made of the outcome of the work may be made of the outcome of the stage. -/
theorem stage_bind_pure (k : Stage) (w : RunStep σ α) (f : α → β) :
    runner.stage k (w >>= fun a => pure (f a)) = runner.stage k w >>= fun a => pure (f a) := by
  funext r
  rw [stage_apply, bind_apply, bind_apply, stage_apply]
  rcases w (r.entered k) with ⟨e | a, r₁⟩
  · rfl
  simp only [pure_apply]
  rcases runner.handler k r₁.job r₁.surroundings with ⟨e | _, s⟩
  · rfl
  · rfl

end JobRunner

/-! ## The loop -/

/-- What the stages of a run have left for the stages after them. -/
structure RunContext where
  snapshot : Option Snapshot := none
  answers : Option AnswerBook := none
  groups : Option (List PageGroup) := none
  pages : Option (List BodyPage) := none
  plan : Option DocumentPlan := none
  coverRange : Option PageRange := none
  bodyRange : Option PageRange := none
  pdf : Option Pdf := none

/-- Takes what an earlier stage has left under a name. -/
def RunStep.need (name : String) : Option α → RunStep σ α
  | some a => pure a
  | none => throw (.noField name)

namespace JobRunner

variable (runner : JobRunner σ)

open RunStep

/-- The work of a stage in a context. -/
def work (k : Stage) (c : RunContext) : RunStep σ RunContext :=
  match k with
  | .loadForm => do
    let s ← runner.loadForm
    return { c with snapshot := some s }
  | .resolveAnswers => do
    let s ← need "snapshot" c.snapshot
    return { c with answers := some (.ofSnapshot s) }
  | .planPages => do
    let s ← need "snapshot" c.snapshot
    let groups ← planPages s
    return { c with groups := some groups }
  | .renderSections => do
    let groups ← need "groups" c.groups
    let answers ← need "resolver" c.answers
    return { c with pages := some (runner.maker.pages answers groups).1 }
  | .composeCover => do
    let s ← need "snapshot" c.snapshot
    let answers ← need "resolver" c.answers
    let pages ← need "pages" c.pages
    let plan ← runner.composeCover s answers pages
    return { c with plan := some plan }
  | .printCover => do
    let plan ← need "plan" c.plan
    let cover ← runner.printCover plan
    return { c with coverRange := some cover }
  | .printBody => do
    let plan ← need "plan" c.plan
    let body ← runner.printBody plan
    return { c with bodyRange := some body }
  | .merge => do
    let cover ← need "cover_range" c.coverRange
    let body ← need "body_range" c.bodyRange
    let pdf ← merge cover body
    return { c with pdf := some pdf }

/-- Some stages in order, up to the first that fails. -/
def perform : List Stage → RunContext → RunStep σ RunContext
  | [], c => pure c
  | k :: rest, c => do
    let c ← runner.stage k (runner.work k c)
    perform rest c

/-- A stage whose work makes a value of something else is the stage of that. -/
theorem perform_cons {k : Stage} {rest : List Stage} {c : RunContext} {w : RunStep σ α}
    {f : α → RunContext} (h : runner.work k c = w >>= fun a => pure (f a)) :
    runner.perform (k :: rest) c = runner.stage k w >>= fun a => runner.perform rest (f a) := by
  rw [perform, h, stage_bind_pure, bind_assoc]
  simp only [pure_bind]

/-- A run is the loop over all stages, and its outcome what the last of them leaves. -/
theorem stages_eq :
    runner.stages = (do
      let c ← runner.perform Stage.all {}
      need "pdf" c.pdf) := by
  -- One stage after the other is taken off both sides.  A stage whose work is a plain value has
  -- to be told which value, since `pure` alone does not show what is passed on.
  rw [stages, Stage.all, perform_cons runner (w := runner.loadForm) rfl, bind_assoc]
  refine bind_congr fun s => ?_
  rw [perform_cons runner (w := pure (AnswerBook.ofSnapshot s))
    (f := fun answers => ⟨s, some answers, none, none, none, none, none, none⟩) rfl, bind_assoc]
  refine bind_congr fun answers => ?_
  rw [perform_cons runner (w := planPages s) (by simp only [work, need, pure_bind]; rfl),
    bind_assoc]
  refine bind_congr fun groups => ?_
  rw [perform_cons runner (w := pure (runner.maker.pages answers groups).1)
    (f := fun pages => ⟨s, answers, groups, some pages, none, none, none, none⟩) rfl, bind_assoc]
  refine bind_congr fun pages => ?_
  rw [perform_cons runner (w := runner.composeCover s answers pages)
    (by simp only [work, need, pure_bind]; rfl), bind_assoc]
  refine bind_congr fun plan => ?_
  rw [perform_cons runner (w := runner.printCover plan) (by simp only [work, need, pure_bind]; rfl),
    bind_assoc]
  refine bind_congr fun cover => ?_
  rw [perform_cons runner (w := runner.printBody plan) (by simp only [work, need, pure_bind]; rfl),
    bind_assoc]
  refine bind_congr fun body => ?_
  rw [perform_cons runner (w := merge cover body) (by simp only [work, need, pure_bind]; rfl),
    bind_assoc]
  simp only [perform, need, pure_bind, bind_pure]

/-- Running a job is going through its stages, and then marking it. -/
theorem execute_apply (r : JobRun σ) :
    runner.execute r =
      match runner.stages { r with job := r.job.markRunning Stage.loadForm.name } with
      | (.ok pdf, r') => (.ok pdf, { r' with job := r'.job.markSucceeded })
      | (.error e, r') => (.error e,
          { r' with job := r'.job.markFailed e.message, log := r'.log ++ [jobFailed r'.job] }) := by
  simp only [execute, bind_apply, changeJob_apply, tryCatch_apply]
  rcases runner.stages { r with job := r.job.markRunning Stage.loadForm.name } with ⟨e | pdf, r'⟩
  · simp only [get_apply, note_apply, throw_apply]
  · rfl

/-- Loading a form names the file, or leaves all as it is. -/
theorem loadForm_apply (r : JobRun σ) :
    runner.loadForm r = match runner.load r.job.instanceId with
      | .ok s => (.ok s, { r with job := { r.job with fileName := some s.fileName } })
      | .error e => (.error e, r) := by
  simp only [loadForm, bind_apply, get_apply, lift_apply]
  cases runner.load r.job.instanceId with
  | ok s => rfl
  | error e => rfl

/-- The state in which the stages of a job begin. -/
def begun (job : RenderJob) (shelf : Shelf) (surroundings : σ) : JobRun σ :=
  ⟨job.markRunning Stage.loadForm.name, shelf, [], surroundings⟩

/-- Marking the job changes neither what a run comes out as nor its surroundings. -/
theorem run_stages (job : RenderJob) (shelf : Shelf) (s : σ) :
    (runner.run job shelf s).1 = (runner.stages (begun job shelf s)).1 ∧
      (runner.run job shelf s).2.surroundings =
        (runner.stages (begun job shelf s)).2.surroundings := by
  have hrun : runner.run job shelf s = runner.execute ⟨job, shelf, [], s⟩ := rfl
  rw [hrun, execute_apply, begun]
  rcases runner.stages ⟨job.markRunning Stage.loadForm.name, shelf, [], s⟩ with ⟨e | pdf, r⟩
  · exact ⟨rfl, rfl⟩
  · exact ⟨rfl, rfl⟩

/-- A run whose stages do not all pass fails with the first failure. -/
theorem run_error {job : RenderJob} {shelf : Shelf} {s : σ} {e : Failure} {r : JobRun σ}
    (h : runner.perform Stage.all {} (begun job shelf s) = (.error e, r)) :
    runner.run job shelf s = (.error e,
      { r with job := r.job.markFailed e.message, log := r.log ++ [jobFailed r.job] }) := by
  have hstages : runner.stages (begun job shelf s) = (.error e, r) := by
    rw [stages_eq, bind_apply, h]
  have hrun : runner.run job shelf s = runner.execute ⟨job, shelf, [], s⟩ := rfl
  rw [begun] at hstages
  rw [hrun, execute_apply, hstages]

/-- A run whose stages all pass ends with what they have left. -/
theorem run_ok {job : RenderJob} {shelf : Shelf} {s : σ} {c : RunContext} {r : JobRun σ} {pdf : Pdf}
    (h : runner.perform Stage.all {} (begun job shelf s) = (.ok c, r)) (hpdf : c.pdf = some pdf) :
    runner.run job shelf s = (.ok pdf, { r with job := r.job.markSucceeded }) := by
  have hstages : runner.stages (begun job shelf s) = (.ok pdf, r) := by
    rw [stages_eq, bind_apply, h]
    simp only [hpdf, need, pure_apply]
  have hrun : runner.run job shelf s = runner.execute ⟨job, shelf, [], s⟩ := rfl
  rw [begun] at hstages
  rw [hrun, execute_apply, hstages]

/-! ## Where a loop fails -/

/-- Stages in a row are the first and then the second ones. -/
theorem perform_append (xs ys : List Stage) (c : RunContext) :
    runner.perform (xs ++ ys) c = runner.perform xs c >>= runner.perform ys := by
  induction xs generalizing c with
  | nil => rw [List.nil_append, perform, pure_bind]
  | cons k xs ih =>
      rw [List.cons_append, perform, perform, bind_assoc]
      exact bind_congr fun c' => ih c'

/-- A loop that fails has a first stage that fails, and all stages before it have passed. -/
theorem perform_error {ks : List Stage} {c : RunContext} {r r' : JobRun σ} {e : Failure}
    (h : runner.perform ks c r = (.error e, r')) :
    ∃ done k rest c₁ r₁, ks = done ++ k :: rest ∧ runner.perform done c r = (.ok c₁, r₁) ∧
      runner.stage k (runner.work k c₁) r₁ = (.error e, r') := by
  induction ks generalizing c r with
  | nil =>
      rw [perform, pure_apply] at h
      cases h
  | cons k ks ih =>
      rw [perform, bind_apply] at h
      rcases hk : runner.stage k (runner.work k c) r with ⟨d | c', r₁⟩
      · -- The stage at the front is the first to fail.
        rw [hk] at h
        cases h
        exact ⟨[], k, ks, c, r, rfl, rfl, hk⟩
      -- It passes, so the failing one is found by the induction hypothesis.
      rw [hk] at h
      obtain ⟨done, k', rest, c₂, r₂, rfl, hdone, hk'⟩ := ih h
      refine ⟨k :: done, k', rest, c₂, r₂, rfl, ?_, hk'⟩
      rw [perform, bind_apply, hk]
      exact hdone

end JobRunner

/-! ## What a loop leaves -/

/-- The document of a context is its cover and its body joined. -/
structure RunContext.Merged (c : RunContext) (cover body : PageRange) (pdf : Pdf) : Prop where
  coverRange : c.coverRange = some cover
  bodyRange : c.bodyRange = some body
  left : c.pdf = some pdf
  merged : PageRange.merge [cover, body] = .ok pdf

namespace JobRunner

variable (runner : JobRunner σ)

/-- What was taken had been left. -/
theorem need_ok {name : String} {a : Option α} {x : α} {r r' : JobRun σ}
    (h : RunStep.need name a r = (.ok x, r')) : a = some x := by
  cases a with
  | none => cases h
  | some y =>
      cases h
      rfl

/-- The last stage leaves the cover and the body joined. -/
theorem work_merge_ok {c c' : RunContext} {r r' : JobRun σ}
    (h : runner.work .merge c r = (.ok c', r')) : ∃ cover body pdf, c'.Merged cover body pdf := by
  obtain ⟨cover, r₁, hcover, h⟩ := bind_ok h
  obtain ⟨body, r₂, hbody, h⟩ := bind_ok h
  obtain ⟨pdf, r₃, hpdf, h⟩ := bind_ok h
  obtain ⟨pdf', r₄, hmerge, hcount⟩ := bind_ok hpdf
  rw [lift_apply] at hmerge
  cases hcount
  cases h
  exact ⟨cover, body, pdf, need_ok hcover, need_ok hbody, rfl, congrArg Prod.fst hmerge⟩

/-- A loop all of whose stages pass leaves the cover and the body joined. -/
theorem perform_all_ok {c : RunContext} {r r' : JobRun σ}
    (h : runner.perform Stage.all {} r = (.ok c, r')) :
    ∃ cover body pdf, c.Merged cover body pdf := by
  have hall : Stage.all = Stage.all.dropLast ++ [.merge] := rfl
  rw [hall, perform_append] at h
  -- Only the last stage has to be looked at.
  obtain ⟨c₁, r₁, hdone, h⟩ := bind_ok h
  simp only [perform, bind_pure] at h
  obtain ⟨r₂, s, hwork, -, -⟩ := runner.stage_ok h
  exact runner.work_merge_ok hwork

end JobRunner

end FormPress
