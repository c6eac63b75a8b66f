/-
  FormPress.Proofs.Job.Work

  What the work of one stage does to a job and to its surroundings.  Work that
  is done writes the field of its stage and leaves the rest of the job alone
  (`Stage.Keeps`); work that fails leaves the whole job alone.  Either way it
  has no pass printed but the one of its stage, and that one at most once
  (`work_law`).
-/
import FormPress.Proofs.Document.Assembly
import FormPress.Proofs.Job.Recording

namespace FormPress

variable {σ : Type}

/-! ## What belongs to a stage -/

namespace Stage

/-- The labels of the passes that a stage has printed. -/
def calls : Stage → List String
  | printCover => [coverLabel]
  | printBody => [bodyLabel]
  | _ => []

/-- What a stage that passes does to the surroundings of the job. -/
def events (k : Stage) : List RunEvent := k.calls.map .called ++ [.told k k.startPercent]

/-- The field of a job that a stage writes, if there is one, still has its default. -/
def Untouched (k : Stage) (job : RenderJob) : Prop :=
  match k with
  | loadForm => job.fileName = none
  | resolveAnswers => True
  | planPages => job.result.pageGroups = 0
  | renderSections => True
  | composeCover => job.result.headingNumbers = []
  | printCover => job.result.coverPages = 0
  | printBody => job.result.bodyPages = 0
  | merge => job.result.totalPages = 0

/-- A job without the field that a stage writes and without its flags. -/
def cleared (k : Stage) (job : RenderJob) : RenderJob :=
  match k with
  | loadForm => { job with fileName := none, flags := [] }
  | resolveAnswers => { job with flags := [] }
  | planPages => { job with result := { job.result with pageGroups := 0 }, flags := [] }
  | renderSections => { job with flags := [] }
  | composeCover => { job with result := { job.result with headingNumbers := [] }, flags := [] }
  | printCover => { job with result := { job.result with coverPages := 0 }, flags := [] }
  | printBody => { job with result := { job.result with bodyPages := 0 }, flags := [] }
  | merge => { job with result := { job.result with totalPages := 0 }, flags := [] }

/-- Clearing the field of a stage has no bearing on the fields of the others. -/
theorem untouched_cleared {j k : Stage} (hj : j ≠ k) (job : RenderJob) :
    j.Untouched (k.cleared job) ↔ j.Untouched job := by
  -- The fields of two stages are different ones.
  cases j <;> cases k <;> first | exact Iff.rfl | exact absurd rfl hj

/-- How far a job has come has no bearing on its fields. -/
theorem Untouched.progressed {k : Stage} {job : RenderJob} (h : k.Untouched job)
    (progress : JobProgress) : k.Untouched { job with progress := progress } := by
  cases k <;> exact h

/-- Nothing but the field of the stage has changed, a warning apart. -/
structure Keeps (k : Stage) (job job' : RenderJob) : Prop where
  cleared : k.cleared job' = k.cleared job
  flags : ∀ f ∈ job'.flags, f ∈ job.flags ∨ f = noCrestFlag

namespace Keeps

variable {k : Stage} {job job' : RenderJob}

theorem refl (k : Stage) (job : RenderJob) : k.Keeps job job := ⟨rfl, fun _ h => .inl h⟩

/-- Work leaves the progress alone. -/
theorem progress (h : k.Keeps job job') : job'.progress = job.progress := by
  have hprogress := congrArg RenderJob.progress h.cleared
  cases k <;> exact hprogress

/-- Work leaves the errors alone. -/
theorem errors (h : k.Keeps job job') : job'.errors = job.errors := by
  have herrors := congrArg RenderJob.errors h.cleared
  cases k <;> exact herrors

/-- Work leaves the fields of other stages untouched. -/
theorem others (h : k.Keeps job job') {j : Stage} (hj : j ≠ k) (hjob : j.Untouched job) :
    j.Untouched job' := by
  rw [← untouched_cleared hj, h.cleared, untouched_cleared hj]
  exact hjob

end Keeps

end Stage

/-! ## Flags -/

/-- A flag is one of those before or the one that is added. -/
theorem mem_addFlag {job : RenderJob} {f g : String} (h : f ∈ (job.addFlag g).flags) :
    f ∈ job.flags ∨ f = g := by
  rw [RenderJob.addFlag] at h
  split at h
  · exact .inl h
  · simpa using h

/-- A flag changes nothing but the flags. -/
theorem addFlag_eq (job : RenderJob) (g : String) :
    job.addFlag g = { job with flags := (job.addFlag g).flags } := by
  rw [RenderJob.addFlag]
  split
  · rfl
  · rfl

/-- A flag touches no field. -/
theorem untouched_addFlag {k : Stage} {job : RenderJob} (g : String) (h : k.Untouched job) :
    k.Untouched (job.addFlag g) := by
  rw [addFlag_eq]
  cases k <;> exact h

/-- The warning about a missing crest is within what a stage may change. -/
theorem Stage.Keeps.warned {k : Stage} {job job' : RenderJob} (h : k.Keeps job job') :
    k.Keeps job (job'.addFlag noCrestFlag) where
  cleared := by
    rw [addFlag_eq, ← h.cleared]
    cases k <;> rfl
  flags := by
    intro f hf
    rcases mem_addFlag hf with hf | hf
    · exact h.flags f hf
    · exact .inr hf

/-! ## Passes -/

/-- The passes of the plan that a context holds have their labels. -/
def RunContext.Labelled (c : RunContext) : Prop :=
  ∀ plan, c.plan = some plan →
    plan.coverOptions.label = coverLabel ∧ plan.bodyOptions.label = bodyLabel

/-- The passes of a plan that is made have their labels. -/
theorem DocumentMaker.assemble_labels {maker : DocumentMaker} {s : Snapshot} {answers : AnswerBook}
    {pages : List BodyPage} {cover : Cover} {t t' : Shelf × List LogEntry} {plan : DocumentPlan}
    (h : maker.assemble s answers pages cover t = (.ok plan, t')) :
    plan.coverOptions.label = coverLabel ∧ plan.bodyOptions.label = bodyLabel := by
  obtain ⟨header, t₁, -, h⟩ := bind_ok h
  cases h
  exact ⟨rfl, rfl⟩

/-! ## Work -/

/-- What holds after the work of a stage that was begun in state `r`. -/
def WorkLaw (k : Stage) (r : JobRun (σ × List RunEvent)) :
    Except Failure RunContext × JobRun (σ × List RunEvent) → Prop
  | (.ok c, r') => c.Labelled ∧ k.Keeps r.job r'.job ∧
      r'.surroundings.2 = r.surroundings.2 ++ k.calls.map .called
  | (.error _, r') => r'.job = r.job ∧
      ∃ made, made <+: k.calls ∧ r'.surroundings.2 = r.surroundings.2 ++ made.map .called

namespace WorkLaw

variable {α : Type} {k : Stage} {r : JobRun (σ × List RunEvent)}

/-- Work may fail as long as it has changed neither the job nor the surroundings. -/
theorem failed {r' : JobRun (σ × List RunEvent)} {e : Failure} (hjob : r'.job = r.job)
    (hsurroundings : r'.surroundings = r.surroundings) : WorkLaw k r (.error e, r') :=
  ⟨hjob, [], List.nil_prefix, by rw [hsurroundings, List.map_nil, List.append_nil]⟩

/-- Work for which something is missing fails at once. -/
theorem need {name : String} {a : Option α} {f : α → RunStep (σ × List RunEvent) RunContext}
    (h : ∀ x, a = some x → WorkLaw k r (f x r)) : WorkLaw k r ((RunStep.need name a >>= f) r) := by
  cases a with
  | none => exact failed rfl rfl
  | some x =>
      rw [RunStep.need, pure_bind]
      exact h x rfl

/-- Work may make parts of a document first. -/
theorem making {m : Making α} {f : α → RunStep (σ × List RunEvent) RunContext}
    (h : ∀ a shelf log, m (r.shelf, r.log) = (.ok a, (shelf, log)) →
      WorkLaw k r (f a { r with shelf := shelf, log := log })) :
    WorkLaw k r ((RunStep.making m >>= f) r) := by
  rw [bind_apply, RunStep.making_apply]
  rcases hm : m (r.shelf, r.log) with ⟨e | a, shelf, log⟩
  · exact failed rfl rfl
  · exact h a shelf log hm

end WorkLaw

namespace JobRunner

open RunStep

variable (runner : JobRunner σ) {c : RunContext} (hc : c.Labelled)
  (r : JobRun (σ × List RunEvent))

include hc

theorem work_loadForm_law : WorkLaw .loadForm r (runner.recorded.work .loadForm c r) := by
  simp only [work, bind_apply, loadForm_apply]
  cases runner.recorded.load r.job.instanceId with
  | error e => exact .failed rfl rfl
  | ok s =>
      exact ⟨hc, ⟨rfl, fun _ h => .inl h⟩, (List.append_nil _).symm⟩

theorem work_resolveAnswers_law :
    WorkLaw .resolveAnswers r (runner.recorded.work .resolveAnswers c r) := by
  rw [work]
  refine .need fun s _ => ?_
  exact ⟨hc, .refl .., (List.append_nil _).symm⟩

theorem work_planPages_law : WorkLaw .planPages r (runner.recorded.work .planPages c r) := by
  rw [work]
  refine .need fun s _ => ?_
  exact ⟨hc, ⟨rfl, fun _ h => .inl h⟩, (List.append_nil _).symm⟩

theorem work_renderSections_law :
    WorkLaw .renderSections r (runner.recorded.work .renderSections c r) := by
  rw [work]
  refine .need fun groups _ => .need fun answers _ => ?_
  exact ⟨hc, .refl .., (List.append_nil _).symm⟩

omit hc in
theorem work_composeCover_law :
    WorkLaw .composeCover r (runner.recorded.work .composeCover c r) := by
  rw [work]
  refine .need fun s _ => .need fun answers _ => .need fun pages _ => ?_
  rw [composeCover, bind_assoc]
  refine .making fun cover shelf log _ => ?_
  rw [bind_assoc]
  refine .making fun plan shelf log hplan => ?_
  -- This is the stage that makes the plan, so the labels are not those of the context so far.
  have hlabelled : RunContext.Labelled { c with plan := some plan } := by
    rintro _ ⟨⟩
    exact DocumentMaker.assemble_labels hplan
  have hkeeps : Stage.composeCover.Keeps r.job
      { r.job with result := { r.job.result with headingNumbers := plan.headingNumbers } } :=
    ⟨rfl, fun _ h => .inl h⟩
  by_cases hcrest : cover.crest.isNone
  · simp only [if_pos hcrest]
    exact ⟨hlabelled, hkeeps.warned, (List.append_nil _).symm⟩
  · simp only [if_neg hcrest]
    exact ⟨hlabelled, hkeeps, (List.append_nil _).symm⟩

/-- The cover is the one pass of its stage, even if that fails. -/
theorem work_printCover_law : WorkLaw .printCover r (runner.recorded.work .printCover c r) := by
  rw [work]
  refine .need fun plan hplan => ?_
  have hcalls : (plan.printCover runner.backend.recorded (r.surroundings, r.log)).2.1.2 =
      r.surroundings.2 ++ [.called coverLabel] := by
    rw [plan.printCover_state, ← (hc plan hplan).1]
    rfl
  simp only [printCover, bind_apply, printing_apply, recorded]
  rcases hp : plan.printCover runner.backend.recorded (r.surroundings, r.log) with ⟨e | cover, t⟩
  · -- The pass has been asked for even if it failed, or if the range could not be cut.
    rw [hp] at hcalls
    exact ⟨rfl, [coverLabel], List.prefix_rfl, hcalls⟩
  · rw [hp] at hcalls
    exact ⟨hc, ⟨rfl, fun _ h => .inl h⟩, hcalls⟩

/-- The body is the one pass of its stage, even if that fails. -/
theorem work_printBody_law : WorkLaw .printBody r (runner.recorded.work .printBody c r) := by
  rw [work]
  refine .need fun plan hplan => ?_
  have hcalls : (plan.printBody runner.backend.recorded (r.surroundings, r.log)).2.1.2 =
      r.surroundings.2 ++ [.called bodyLabel] := by
    rw [plan.printBody_state, ← (hc plan hplan).2]
    rfl
  simp only [printBody, bind_apply, printing_apply, recorded]
  rcases hp : plan.printBody runner.backend.recorded (r.surroundings, r.log) with ⟨e | body, t⟩
  · rw [hp] at hcalls
    exact ⟨rfl, [bodyLabel], List.prefix_rfl, hcalls⟩
  · rw [hp] at hcalls
    exact ⟨hc, ⟨rfl, fun _ h => .inl h⟩, hcalls⟩

theorem work_merge_law : WorkLaw .merge r (runner.recorded.work .merge c r) := by
  rw [work]
  refine .need fun cover _ => .need fun body _ => ?_
  simp only [merge, bind_apply, lift_apply]
  cases PageRange.merge [cover, body] with
  | error e => exact .failed rfl rfl
  | ok pdf =>
      exact ⟨hc, ⟨rfl, fun _ h => .inl h⟩, (List.append_nil _).symm⟩

/-- The work of every stage keeps to its law. -/
theorem work_law (k : Stage) : WorkLaw k r (runner.recorded.work k c r) := by
  cases k with
  | loadForm => exact runner.work_loadForm_law hc r
  | resolveAnswers => exact runner.work_resolveAnswers_law hc r
  | planPages => exact runner.work_planPages_law hc r
  | renderSections => exact runner.work_renderSections_law hc r
  | composeCover => exact runner.work_composeCover_law r
  | printCover => exact runner.work_printCover_law hc r
  | printBody => exact runner.work_printBody_law hc r
  | merge => exact runner.work_merge_law hc r

end JobRunner

end FormPress
