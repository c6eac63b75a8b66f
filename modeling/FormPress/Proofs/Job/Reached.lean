/-
  FormPress.Proofs.Job.Reached

  The job of a run is in order as long as its stages pass (`Reached`, kept by
  `Reached.stage` and so by `Reached.perform`); between the work of a stage and
  its handler it is `Worked`.  A stage that fails by its work
  (`Reached.work_failed`) or by its handler (`Reached.handler_failed`) leaves
  its flag and its progress behind (`FailedStage`).
-/
import FormPress.Proofs.Job.Work
import Mathlib.Data.List.Basic

namespace FormPress

variable {σ : Type}

/-! ## Stages that have passed -/

/-- A run all of whose stages so far have passed. -/
structure Reached (done : List Stage) (c : RunContext) (r : JobRun (σ × List RunEvent)) :
    Prop where
  labelled : c.Labelled
  progress : ∀ k, done.getLast? = some k → r.job.progress = k.left
  errors : r.job.errors = []
  flags : ∀ f ∈ r.job.flags, f = noCrestFlag
  untouched : ∀ k, k ∉ done → k.Untouched r.job
  events : r.surroundings.2 = done.flatMap Stage.events

/-- A run in which the work of one more stage is done. -/
structure Worked (done : List Stage) (k : Stage) (c : RunContext)
    (r : JobRun (σ × List RunEvent)) : Prop where
  labelled : c.Labelled
  progress : r.job.progress = k.entered
  errors : r.job.errors = []
  flags : ∀ f ∈ r.job.flags, f = noCrestFlag
  untouched : ∀ j, j ∉ done → j ≠ k → j.Untouched r.job
  events : r.surroundings.2 = done.flatMap Stage.events ++ k.calls.map .called

section

variable {runner : JobRunner σ} {done : List Stage} {k : Stage} {c c' : RunContext}
  {r r' : JobRun (σ × List RunEvent)}

/-- The work of one more stage that is done. -/
theorem Reached.work (h : Reached done c r)
    (hwork : runner.recorded.work k c (r.entered k) = (.ok c', r')) : Worked done k c' r' := by
  have hlaw := runner.work_law h.labelled (r.entered k) k
  rw [hwork] at hlaw
  obtain ⟨hlabelled, hkeeps, hevents⟩ := hlaw
  constructor
  case labelled => exact hlabelled
  case progress => exact hkeeps.progress
  case errors => exact hkeeps.errors.trans h.errors
  case flags =>
    intro f hf
    rcases hkeeps.flags f hf with hf | hf
    · exact h.flags f hf
    · exact hf
  case untouched =>
    intro j hj hk
    exact hkeeps.others hk ((h.untouched j hj).progressed k.entered)
  case events =>
    have hbegun : (r.entered k).surroundings.2 = done.flatMap Stage.events := h.events
    rw [hevents, hbegun]

/-- The handler of a stage is told the percentage at which the stage starts. -/
theorem Worked.told (h : Worked done k c r) {x : Except Failure Unit} {s : σ × List RunEvent}
    (hhandler : runner.recorded.handler k r.job r.surroundings = (x, s)) :
    s.2 = done.flatMap Stage.events ++ k.events := by
  rw [JobRunner.recorded_handler] at hhandler
  have htold : s.2 = r.surroundings.2 ++ [.told k r.job.progress.percent] :=
    (congrArg (fun told => told.2.2) hhandler).symm
  rw [htold, h.events, h.progress, Stage.events, List.append_assoc]
  rfl

namespace Reached

/-- One more stage that passes. -/
theorem stage (h : Reached done c r)
    (hstage : runner.recorded.stage k (runner.recorded.work k c) r = (.ok c', r')) :
    Reached (done ++ [k]) c' r' := by
  obtain ⟨r₁, s, hwork, hhandler, rfl⟩ := runner.recorded.stage_ok hstage
  have hworked := h.work hwork
  constructor
  case labelled => exact hworked.labelled
  case progress =>
    intro j hj
    rw [List.getLast?_concat] at hj
    cases hj
    rfl
  case errors => exact hworked.errors
  case flags => exact hworked.flags
  case untouched =>
    intro j hj
    rw [List.mem_append, List.mem_singleton, not_or] at hj
    exact (hworked.untouched j hj.1 hj.2).progressed k.left
  case events =>
    rw [List.flatMap_append, List.flatMap_singleton]
    exact hworked.told hhandler

/-- All stages that pass. -/
theorem perform {ks : List Stage} (h : Reached done c r)
    (hks : runner.recorded.perform ks c r = (.ok c', r')) : Reached (done ++ ks) c' r' := by
  induction ks generalizing done c r with
  | nil =>
      cases hks
      rw [List.append_nil]
      exact h
  | cons k ks ih =>
      obtain ⟨c₁, r₁, hstage, hks⟩ := bind_ok hks
      rw [List.append_cons]
      exact ih (h.stage hstage) hks

end Reached

end

/-- The job of a fresh run is in order. -/
theorem reached_begun (i : Int) (shelf : Shelf) (surroundings : σ) :
    Reached [] {} (JobRunner.begun { instanceId := i } shelf (surroundings, [])) where
  labelled := fun _ h => nomatch h
  progress := fun _ h => nomatch h
  errors := rfl
  flags := fun _ h => nomatch h
  untouched := fun k _ => by cases k <;> first | rfl | trivial
  events := rfl

/-! ## A stage that fails -/

/-- A flag that tells of a stage that failed. -/
def IsFailureFlag (f : String) : Prop := "阶段失败:".toList <+: f.toList

/-- The flag of a failed stage tells so. -/
theorem isFailureFlag_failureFlag (k : Stage) : IsFailureFlag k.failureFlag := by
  rw [IsFailureFlag, Stage.failureFlag, String.toList_append]
  exact List.prefix_append ..

/-- The warning about a missing crest does not tell of a failure. -/
theorem not_isFailureFlag_noCrest : ¬ IsFailureFlag noCrestFlag := by
  unfold IsFailureFlag
  decide

/-- A job in which a stage has just failed. -/
structure RenderJob.Broken (job : RenderJob) (k : Stage) : Prop where
  progress : job.progress = k.entered
  errors : job.errors = []
  flagged : job.flags.count k.failureFlag = 1
  flags : ∀ f ∈ job.flags, f = noCrestFlag ∨ f = k.failureFlag

/-- A job without flags of failures is broken by its first one. -/
theorem broken_failedIn {k : Stage} {r : JobRun σ} (e : Failure)
    (hprogress : r.job.progress = k.entered) (herrors : r.job.errors = [])
    (hflags : ∀ f ∈ r.job.flags, f = noCrestFlag) : (r.failedIn k e).job.Broken k := by
  -- A flag is added only if it is new, which it is: the flags so far tell of no failure.
  have hnew : k.failureFlag ∉ r.job.flags := by
    intro hmem
    have hflag := isFailureFlag_failureFlag k
    rw [hflags _ hmem] at hflag
    exact not_isFailureFlag_noCrest hflag
  have hadd : r.job.addFlag k.failureFlag =
      { r.job with flags := r.job.flags ++ [k.failureFlag] } := by
    rw [RenderJob.addFlag, if_neg]
    rwa [List.contains_iff_mem]
  rw [JobRun.failedIn, hadd]
  refine ⟨hprogress, herrors, ?_, ?_⟩
  · rw [List.count_append, List.count_eq_zero_of_not_mem hnew, List.count_singleton_self]
  · intro f hf
    rcases List.mem_append.mp hf with hf | hf
    · exact .inl (hflags f hf)
    · exact .inr (List.mem_singleton.mp hf)

/-- A stage that fails does not touch the fields of the others. -/
theorem untouched_failedIn {j k : Stage} {r : JobRun σ} (e : Failure) (h : j.Untouched r.job) :
    j.Untouched (r.failedIn k e).job := untouched_addFlag _ h

/-- What is seen of a run in which a stage fails after others have passed: which stages have told
    their handlers, and which passes were printed in the failing stage. -/
structure FailedStage (done : List Stage) (k : Stage) (handled : List Stage) (made : List String)
    (r : JobRun (σ × List RunEvent)) : Prop where
  broken : r.job.Broken k
  untouched : ∀ j, j ∉ done → j ≠ k → j.Untouched r.job
  calls : made <+: k.calls
  events : r.surroundings.2 = done.flatMap Stage.events ++
    (made.map RunEvent.called ++ handled.map fun j => RunEvent.told j j.startPercent)

namespace Reached

variable {runner : JobRunner σ} {done : List Stage} {k : Stage} {c c' : RunContext}
  {r r' : JobRun (σ × List RunEvent)} {e : Failure}

/-- A stage whose work fails. -/
theorem work_failed (h : Reached done c r)
    (hwork : runner.recorded.work k c (r.entered k) = (.error e, r')) :
    (k ∉ done → k.Untouched (r'.failedIn k e).job) ∧
      ∃ made, FailedStage done k [] made (r'.failedIn k e) := by
  have hlaw := runner.work_law h.labelled (r.entered k) k
  rw [hwork] at hlaw
  obtain ⟨hjob, made, hmade, hevents⟩ := hlaw
  -- Failed work leaves the job as it was, so no field is written, not even its own.
  have huntouched : ∀ j, j ∉ done → j.Untouched r'.job := by
    intro j hj
    rw [hjob]
    exact (h.untouched j hj).progressed k.entered
  refine ⟨fun hk => untouched_failedIn e (huntouched k hk), made, ?_⟩
  constructor
  case broken =>
    refine broken_failedIn e ?_ ?_ ?_
    · rw [hjob]
      rfl
    · rw [hjob]
      exact h.errors
    · rw [hjob]
      exact h.flags
  case untouched => exact fun j hj _ => untouched_failedIn e (huntouched j hj)
  case calls => exact hmade
  case events =>
    have hbegun : (r.entered k).surroundings.2 = done.flatMap Stage.events := h.events
    rw [List.map_nil, List.append_nil, ← hbegun]
    exact hevents

/-- A stage whose work is done and whose handler fails. -/
theorem handler_failed (h : Reached done c r) {s : σ × List RunEvent}
    (hwork : runner.recorded.work k c (r.entered k) = (.ok c', r'))
    (hhandler : runner.recorded.handler k r'.job r'.surroundings = (.error e, s)) :
    FailedStage done k [k] k.calls ({ r' with surroundings := s }.failedIn k e) := by
  have hworked := h.work hwork
  constructor
  case broken => exact broken_failedIn e hworked.progress hworked.errors hworked.flags
  case untouched => exact fun j hj hk => untouched_failedIn e (hworked.untouched j hj hk)
  case calls => exact List.prefix_rfl
  case events => exact hworked.told hhandler

end Reached

end FormPress
