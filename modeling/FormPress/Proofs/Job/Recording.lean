/-
  FormPress.Proofs.Job.Recording

  What a run does to its surroundings: it has passes printed and tells the
  handler how far it is.  A recorded run keeps account of both, and
  `recorded_run` shows that it is the run otherwise.
-/
import FormPress.Proofs.Job.Loop

namespace FormPress

variable {σ : Type}

/-! ## Events -/

/-- What a run does to its surroundings. -/
inductive RunEvent where
  /-- a pass is printed -/
  | called (label : String)
  /-- the handler of a stage is told how far the job is -/
  | told (stage : Stage) (percent : Int)
  deriving Repr, DecidableEq

namespace RunEvent

/-- The label of a pass that is printed. -/
def label? : RunEvent → Option String
  | called label => some label
  | told _ _ => none

/-- The stage whose handler is told. -/
def stage? : RunEvent → Option Stage
  | called _ => none
  | told stage _ => some stage

/-- The percentage that a handler is told. -/
def percent? : RunEvent → Option Int
  | called _ => none
  | told _ percent => some percent

end RunEvent

/-! ## Keeping account -/

/-- The backend that also keeps account of its calls. -/
def Backend.recorded (b : Backend σ) : Backend (σ × List RunEvent) where
  print html options state :=
    let printed := b.print html options state.1
    ⟨printed.result, printed.log, (printed.state, state.2 ++ [.called options.label])⟩

/-- The runner that also keeps account of what it does to its surroundings. -/
def JobRunner.recorded (runner : JobRunner σ) : JobRunner (σ × List RunEvent) where
  load := runner.load
  maker := runner.maker
  backend := runner.backend.recorded
  handler stage job surroundings :=
    let (result, s) := runner.handler stage job surroundings.1
    (result, (s, surroundings.2 ++ [.told stage job.progress.percent]))

/-- A recorded handler is the handler, with a note of what it was told. -/
theorem JobRunner.recorded_handler (runner : JobRunner σ) (k : Stage) (job : RenderJob)
    (s : σ × List RunEvent) :
    runner.recorded.handler k job s = ((runner.handler k job s.1).1,
      ((runner.handler k job s.1).2, s.2 ++ [.told k job.progress.percent])) := rfl

/-- A run without the account of its events. -/
def JobRun.forget (r : JobRun (σ × List RunEvent)) : JobRun σ :=
  { r with surroundings := r.surroundings.1 }

/-! ## A recorded run is a run -/

/-- A step of a recorded run comes out as the step of the run itself. -/
abbrev RunStep.Mirrors {α : Type} (m' : RunStep (σ × List RunEvent) α) (m : RunStep σ α) : Prop :=
  Follows JobRun.forget m' m

/-- A step of printing on a recorded backend comes out as on the backend itself. -/
abbrev Printing.Mirrors {α : Type} (p' : Printing (σ × List RunEvent) α) (p : Printing σ α) :
    Prop :=
  Follows (fun t => (t.1.1, t.2)) p' p

namespace Printing

/-- A pass is printed as on the backend itself. -/
theorem pass_mirrors (b : Backend σ) (html : String) (options : PrintOptions) :
    Mirrors (pass b.recorded html options) (pass b html options) := fun _ => rfl

theorem note_mirrors (entry : LogEntry) : Mirrors (σ := σ) (note entry) (note entry) := fun _ => rfl

end Printing

namespace DocumentPlan

variable (plan : DocumentPlan) (b : Backend σ)

/-- The cover is printed as on the backend itself. -/
theorem printCover_mirrors : Printing.Mirrors (plan.printCover b.recorded) (plan.printCover b) := by
  refine (Printing.pass_mirrors b plan.coverHtml plan.coverOptions).bind fun cover => ?_
  by_cases hmany : 1 < cover.pageCount
  · simp only [if_pos hmany]
    exact (Printing.note_mirrors _).bind fun _ => .lift _
  · simp only [if_neg hmany]
    exact .pure cover

/-- The body is printed as on the backend itself. -/
theorem printBody_mirrors : Printing.Mirrors (plan.printBody b.recorded) (plan.printBody b) := by
  refine (Printing.pass_mirrors b plan.bodyHtml plan.bodyOptions).bind fun body => ?_
  by_cases hfew : body.pageCount < plan.expectedPages
  · simp only [if_pos hfew]
    exact (Printing.note_mirrors _).bind fun _ => .pure body
  · simp only [if_neg hfew]
    exact .pure body

end DocumentPlan

namespace RunStep

variable {α : Type}

theorem changeJob_mirrors (f : RenderJob → RenderJob) :
    Mirrors (σ := σ) (changeJob f) (changeJob f) := fun _ => rfl

theorem making_mirrors (m : Making α) : Mirrors (σ := σ) (making m) (making m) := fun _ => rfl

/-- A step of printing in a run comes out as in the run itself. -/
theorem printing_mirrors {p' : Printing (σ × List RunEvent) α} {p : Printing σ α}
    (h : Printing.Mirrors p' p) : Mirrors (printing p') (printing p) := by
  intro r
  -- `h` speaks of the state that a printing step sees of the run.
  have hp : p (r.forget.surroundings, r.forget.log) = _ := h (r.surroundings, r.log)
  rw [printing_apply, printing_apply, hp]
  rfl

theorem need_mirrors (name : String) (a : Option α) :
    Mirrors (σ := σ) (need name a) (need name a) := by
  cases a with
  | none => exact .throw _
  | some a => exact .pure a

end RunStep

namespace JobRunner

variable (runner : JobRunner σ)

open RunStep

theorem loadForm_mirrors : Mirrors runner.recorded.loadForm runner.loadForm := by
  intro r
  rw [loadForm_apply, loadForm_apply]
  simp only [recorded, JobRun.forget]
  cases runner.load r.job.instanceId with
  | ok s => rfl
  | error e => rfl

theorem count_mirrors (f : JobResult → JobResult) : Mirrors (σ := σ) (count f) (count f) :=
  changeJob_mirrors _

/-- The work of every stage comes out as in the run itself. -/
theorem work_mirrors (k : Stage) (c : RunContext) :
    Mirrors (runner.recorded.work k c) (runner.work k c) := by
  -- Each stage is put together from steps of which every one is mirrored.
  cases k with
  | loadForm => exact runner.loadForm_mirrors.bind fun s => .pure _
  | resolveAnswers => exact (need_mirrors _ _).bind fun s => .pure _
  | planPages =>
      refine (need_mirrors _ _).bind fun s => .bind ?_ fun groups => .pure _
      exact (count_mirrors _).bind fun _ => .pure _
  | renderSections =>
      exact (need_mirrors _ _).bind fun groups => (need_mirrors _ _).bind fun answers => .pure _
  | composeCover =>
      refine (need_mirrors _ _).bind fun s => (need_mirrors _ _).bind fun answers =>
        (need_mirrors _ _).bind fun pages => .bind ?_ fun plan => .pure _
      refine (making_mirrors _).bind fun cover => (making_mirrors _).bind fun plan =>
        (count_mirrors _).bind fun _ => ?_
      by_cases hcrest : cover.crest.isNone
      · simp only [if_pos hcrest]
        exact (changeJob_mirrors _).bind fun _ => .pure plan
      · simp only [if_neg hcrest]
        exact .pure plan
  | printCover =>
      refine (need_mirrors _ _).bind fun plan => .bind ?_ fun cover => .pure _
      exact (printing_mirrors (plan.printCover_mirrors _)).bind fun cover =>
        (count_mirrors _).bind fun _ => .pure cover
  | printBody =>
      refine (need_mirrors _ _).bind fun plan => .bind ?_ fun body => .pure _
      exact (printing_mirrors (plan.printBody_mirrors _)).bind fun body =>
        (count_mirrors _).bind fun _ => .pure body
  | merge =>
      refine (need_mirrors _ _).bind fun cover => (need_mirrors _ _).bind fun body =>
        .bind ?_ fun pdf => .pure _
      exact .bind (.lift _) fun pdf => (count_mirrors _).bind fun _ => .pure pdf

/-- A stage comes out as in the run itself if its work does. -/
theorem stage_mirrors {α : Type} (k : Stage) {w' : RunStep (σ × List RunEvent) α}
    {w : RunStep σ α} (h : Mirrors w' w) :
    Mirrors (runner.recorded.stage k w') (runner.stage k w) := by
  intro r
  -- Entering a stage changes the job alone, and so commutes with forgetting the account.
  have hw : w (r.forget.entered k) = _ := h (r.entered k)
  rw [stage_apply, stage_apply, hw]
  rcases w' (r.entered k) with ⟨e | a, r₁⟩
  · rfl
  simp only [recorded_handler, JobRun.forget]
  rcases runner.handler k r₁.job r₁.surroundings.1 with ⟨e | _, s⟩
  · rfl
  · rfl

/-- The loop comes out as in the run itself. -/
theorem perform_mirrors (ks : List Stage) (c : RunContext) :
    Mirrors (runner.recorded.perform ks c) (runner.perform ks c) := by
  induction ks generalizing c with
  | nil => exact .pure c
  | cons k ks ih => exact (runner.stage_mirrors k (runner.work_mirrors k c)).bind ih

/-- A recorded run comes out as the run itself. -/
theorem execute_mirrors : Mirrors runner.recorded.execute runner.execute := by
  intro r
  have hstages : Mirrors runner.recorded.stages runner.stages := by
    rw [stages_eq, stages_eq]
    exact (runner.perform_mirrors _ _).bind fun c => need_mirrors _ _
  have h := hstages { r with job := r.job.markRunning Stage.loadForm.name }
  rw [execute_apply, execute_apply]
  simp only [JobRun.forget] at h ⊢
  rw [h]
  rcases runner.recorded.stages { r with job := r.job.markRunning Stage.loadForm.name } with
    ⟨e | pdf, r'⟩
  · rfl
  · rfl

/-- What a run does to its surroundings, in order. -/
def events (job : RenderJob) (shelf : Shelf) (surroundings : σ) : List RunEvent :=
  (runner.recorded.run job shelf (surroundings, [])).2.surroundings.2

/-- A recorded run is the run, with an account of its events. -/
theorem recorded_run (job : RenderJob) (shelf : Shelf) (surroundings : σ) :
    runner.run job shelf surroundings =
      ((runner.recorded.run job shelf (surroundings, [])).1,
        (runner.recorded.run job shelf (surroundings, [])).2.forget) :=
  runner.execute_mirrors ⟨job, shelf, [], (surroundings, [])⟩

end JobRunner

end FormPress
