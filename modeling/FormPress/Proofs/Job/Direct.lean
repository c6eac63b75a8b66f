/-
  FormPress.Proofs.Job.Direct

  A run and the direct way to a document: making the plan and printing it.
  Without handlers the stages of a run are the direct way with notes in the job
  on top (`stages_agree`), so the passes asked for are the same and the outcome
  differs only in how the failure of a backend is worded (`run_direct`).
-/
import FormPress.Proofs.Document.Assembly
import FormPress.Proofs.Document.Plan
import FormPress.Proofs.Job.Loop

namespace FormPress

variable {σ α β : Type}

/-! ## Steps that agree but for the job -/

namespace JobRun

/-- Two runs that have loaded the same logos, left the same notes and stand in the same
    surroundings. -/
structure Alike (r r' : JobRun σ) : Prop where
  shelf : r.shelf = r'.shelf
  log : r.log = r'.log
  surroundings : r.surroundings = r'.surroundings

end JobRun

/-- Two outcomes that differ in nothing but the job; of failures the notes may differ too. -/
def SameOutcome : Except Failure α × JobRun σ → Except Failure α × JobRun σ → Prop
  | (.ok a, r), (.ok a', r') => a = a' ∧ r.Alike r'
  | (.error e, r), (.error e', r') => e = e' ∧ r.surroundings = r'.surroundings
  | _, _ => False

/-- Outcomes that differ in the job alone are the same result. -/
theorem SameOutcome.result {x y : Except Failure α × JobRun σ} (h : SameOutcome x y) :
    x.1 = y.1 := by
  rcases x with ⟨e | a, r⟩ <;> rcases y with ⟨e' | a', r'⟩
  · exact congrArg Except.error h.1
  · exact h.elim
  · exact h.elim
  · exact congrArg Except.ok h.1

/-- Outcomes that differ in the job alone leave the same surroundings. -/
theorem SameOutcome.surroundings {x y : Except Failure α × JobRun σ} (h : SameOutcome x y) :
    x.2.surroundings = y.2.surroundings := by
  rcases x with ⟨e | a, r⟩ <;> rcases y with ⟨e' | a', r'⟩
  · exact h.2
  · exact h.elim
  · exact h.elim
  · exact h.2.surroundings

namespace RunStep

/-- Two steps that agree but for the job. -/
def Agrees (x y : RunStep σ α) : Prop := ∀ r r', r.Alike r' → SameOutcome (x r) (y r')

namespace Agrees

theorem pure (a : α) : Agrees (σ := σ) (Pure.pure a) (Pure.pure a) := fun _ _ h => ⟨rfl, h⟩

theorem lift (x : Except Failure α) : Agrees (σ := σ) (liftM x) (liftM x) := by
  intro r r' h
  rw [lift_apply, lift_apply]
  cases x with
  | ok a => exact ⟨rfl, h⟩
  | error e => exact ⟨rfl, h.surroundings⟩

theorem making (m : Making α) : Agrees (σ := σ) (RunStep.making m) (RunStep.making m) := by
  intro r r' h
  rw [making_apply, making_apply, h.shelf, h.log]
  rcases m (r'.shelf, r'.log) with ⟨e | a, shelf, log⟩
  · exact ⟨rfl, h.surroundings⟩
  · exact ⟨rfl, rfl, rfl, h.surroundings⟩

theorem printing (p : Printing σ α) : Agrees (RunStep.printing p) (RunStep.printing p) := by
  intro r r' h
  rw [printing_apply, printing_apply, h.surroundings, h.log]
  rcases p (r'.surroundings, r'.log) with ⟨e | a, surroundings, log⟩
  · exact ⟨rfl, rfl⟩
  · exact ⟨rfl, h.shelf, rfl, rfl⟩

/-- Steps in a row agree if each of them does. -/
theorem bind {x y : RunStep σ α} {f g : α → RunStep σ β} (hxy : Agrees x y)
    (hfg : ∀ a, Agrees (f a) (g a)) : Agrees (x >>= f) (y >>= g) := by
  intro r r' h
  have hstep := hxy r r' h
  rw [bind_apply, bind_apply]
  -- Both fail or both succeed; only then the second steps are taken.
  rcases hx : x r with ⟨e | a, r₁⟩ <;> rcases hy : y r' with ⟨e' | a', r₁'⟩ <;>
    rw [hx, hy] at hstep
  · exact hstep
  · exact hstep.elim
  · exact hstep.elim
  · obtain ⟨rfl, hr⟩ := hstep
    exact hfg a r₁ r₁' hr

/-- What only passes an outcome on makes no difference. -/
theorem passedOn {x y : RunStep σ α} {f : α → RunStep σ α} (hxy : Agrees x y)
    (hf : ∀ a, Agrees (f a) (Pure.pure a)) : Agrees (x >>= f) y := by
  have h := hxy.bind hf
  rwa [bind_pure] at h

/-- What is written into the job makes no difference. -/
theorem changed {f : RenderJob → RenderJob} {x y : RunStep σ α} (h : Agrees x y) :
    Agrees (changeJob f >>= fun _ => x) y := by
  intro r r' hr
  exact h { r with job := f r.job } r' ⟨hr.shelf, hr.log, hr.surroundings⟩

/-- A stage whose handler does nothing is its work. -/
theorem stage {runner : JobRunner σ} (hquiet : runner.handler = ignoreStages) (k : Stage)
    {w w' : RunStep σ α} (h : Agrees w w') : Agrees (runner.stage k w) w' := by
  intro r r' hr
  have hwork := h (r.entered k) r' ⟨hr.shelf, hr.log, hr.surroundings⟩
  rw [JobRunner.stage_apply, hquiet]
  rcases hw : w (r.entered k) with ⟨e | a, r₁⟩ <;> rcases hw' : w' r' with ⟨e' | a', r₁'⟩ <;>
    rw [hw, hw'] at hwork
  · exact ⟨hwork.1, hwork.2⟩
  · exact hwork.elim
  · exact hwork.elim
  · exact ⟨hwork.1, hwork.2.shelf, hwork.2.log, hwork.2.surroundings⟩

end Agrees

end RunStep

/-! ## The stages without the job -/

namespace JobRunner

variable (runner : JobRunner σ)

open RunStep

/-- Makes the plan of a document, prints its passes and joins them. -/
def straight (s : Snapshot) : RunStep σ Pdf := do
  let plan ← making (runner.maker.plan s)
  let cover ← printing (plan.printCover runner.backend)
  let body ← printing (plan.printBody runner.backend)
  (PageRange.merge [cover, body] : Except Failure Pdf)

/-- Planning the pages does nothing but count them. -/
theorem planPages_agrees (s : Snapshot) :
    Agrees (σ := σ) (planPages s) (pure (PageGroup.plan s.steps)) := (Agrees.pure _).changed

/-- Composing the cover makes it and the plan, and notes what it has found. -/
theorem composeCover_agrees (s : Snapshot) (answers : AnswerBook) (pages : List BodyPage) :
    Agrees (runner.composeCover s answers pages) (do
      let cover ← making (runner.maker.cover s answers)
      making (runner.maker.assemble s answers pages cover)) := by
  refine (Agrees.making _).bind fun cover => (Agrees.making _).passedOn fun plan => .changed ?_
  by_cases hcrest : cover.crest.isNone
  · simp only [if_pos hcrest]
    exact (Agrees.pure plan).changed
  · simp only [if_neg hcrest]
    exact .pure plan

/-- The stage of the cover prints it and counts its pages. -/
theorem printCover_agrees (plan : DocumentPlan) :
    Agrees (runner.printCover plan) (printing (plan.printCover runner.backend)) :=
  (Agrees.printing _).passedOn fun cover => (Agrees.pure cover).changed

/-- The stage of the body prints it and counts its pages. -/
theorem printBody_agrees (plan : DocumentPlan) :
    Agrees (runner.printBody plan) (printing (plan.printBody runner.backend)) :=
  (Agrees.printing _).passedOn fun body => (Agrees.pure body).changed

/-- The last stage joins the ranges and counts the pages. -/
theorem merge_agrees (cover body : PageRange) :
    Agrees (σ := σ) (merge cover body) (liftM (PageRange.merge [cover, body])) :=
  (Agrees.lift _).passedOn fun pdf => (Agrees.pure pdf).changed

/-- Making the cover and then the rest of the plan is making the plan. -/
theorem making_plan (s : Snapshot) :
    (making (runner.maker.plan s) : RunStep σ DocumentPlan) = (do
      let cover ← making (runner.maker.cover s (.ofSnapshot s))
      making (runner.maker.assemble s (.ofSnapshot s) (runner.maker.pagesOf s) cover)) := by
  funext r
  rw [bind_apply, making_apply, making_apply, DocumentMaker.plan_eq_assemble, bind_apply]
  rcases runner.maker.cover s (.ofSnapshot s) (r.shelf, r.log) with ⟨e | cover, shelf, log⟩
  · rfl
  · rfl

/-- After a form is loaded, a run without handlers comes out as the straight way. -/
theorem stages_agree (hquiet : runner.handler = ignoreStages) {r : JobRun σ} {s : Snapshot}
    (hload : runner.load r.job.instanceId = .ok s) :
    SameOutcome (runner.stages r) (runner.straight s r) := by
  -- The straight way, written with one step for each stage after the first.
  have hstraight : runner.straight s = (do
      let answers ← pure (AnswerBook.ofSnapshot s)
      let groups ← pure (PageGroup.plan s.steps)
      let pages ← pure (runner.maker.pages answers groups).1
      let plan ← (do
        let cover ← making (runner.maker.cover s answers)
        making (runner.maker.assemble s answers pages cover))
      let cover ← printing (plan.printCover runner.backend)
      let body ← printing (plan.printBody runner.backend)
      liftM (PageRange.merge [cover, body])) := by
    simp only [pure_bind]
    rw [straight, making_plan]
    rfl
  rw [hstraight, stages, bind_apply, stage_apply, loadForm_apply, JobRun.entered, hload, hquiet]
  refine Agrees.bind (.stage hquiet _ (.pure _)) (fun answers => ?_) _ r ⟨rfl, rfl, rfl⟩
  refine .bind (.stage hquiet _ (planPages_agrees s)) fun groups => ?_
  refine .bind (.stage hquiet _ (.pure _)) fun pages => ?_
  refine .bind (.stage hquiet _ (runner.composeCover_agrees s answers pages)) fun plan => ?_
  refine .bind (.stage hquiet _ (runner.printCover_agrees plan)) fun cover => ?_
  refine .bind (.stage hquiet _ (runner.printBody_agrees plan)) fun body => ?_
  exact .stage hquiet _ (merge_agrees cover body)

/-! ## Failures of a backend -/

theorem mapError_error (f : Failure → Failure) (e : Failure) :
    (Except.error e : Except Failure α).mapError f = .error (f e) := rfl

theorem mapError_ok (f : Failure → Failure) (a : α) :
    (Except.ok a : Except Failure α).mapError f = .ok a := rfl

/-- A failure of the engine's own keeps its wording. -/
theorem wrapBackend_of_isOwn {e : Failure} (h : e.isOwn) : wrapBackend e = e := if_pos h

/-- Any other failure is reworded as one of printing. -/
theorem wrapBackend_of_not_isOwn {e : Failure} (h : ¬ e.isOwn) :
    wrapBackend e = .engine (.render (.backend e.message)) := if_neg h

/-- The whole document is printed as its passes are. -/
theorem printing_print (plan : DocumentPlan) :
    printing (plan.print runner.backend) = (do
      let cover ← printing (plan.printCover runner.backend)
      let body ← printing (plan.printBody runner.backend)
      liftM (PageRange.merge [cover, body])) := by
  funext r
  simp only [bind_apply, printing_apply, lift_apply, DocumentPlan.print_apply]
  rcases plan.printCover runner.backend (r.surroundings, r.log) with ⟨e | cover, s, log⟩
  · rfl
  simp only [mapError_ok]
  rcases plan.printBody runner.backend (s, log) with ⟨e | body, s, log⟩
  · rfl
  simp only [mapError_ok]
  rcases hmerge : PageRange.merge [cover, body] with e | pdf
  · -- Joining is no call of the backend, and what fails there is left as it is.
    simp only [mapError_error, wrapBackend_of_isOwn (merge_isOwn hmerge)]
  · simp only [mapError_ok]

/-- The straight way makes the plan and prints it. -/
theorem straight_eq (s : Snapshot) :
    runner.straight s =
      making (runner.maker.plan s) >>= fun plan => printing (plan.print runner.backend) := by
  rw [straight]
  exact bind_congr fun plan => (runner.printing_print plan).symm

end JobRunner

/-! ## The direct way -/

/-- Makes the plan of a document and prints it, without a job. -/
def DocumentMaker.direct (maker : DocumentMaker) (backend : Backend σ) (s : Snapshot)
    (shelf : Shelf) (surroundings : σ) : Except Failure Pdf × σ :=
  match maker.plan s (shelf, []) with
  | (.error e, _) => (.error e, surroundings)
  | (.ok plan, _, log) =>
    let (result, after, _) := plan.print backend (surroundings, log)
    (result, after)

namespace JobRunner

variable (runner : JobRunner σ)

open RunStep

/-- A run without handlers leaves its surroundings as the direct way does, and comes out as it
    does, the wording of a failed backend apart. -/
theorem run_direct (hquiet : runner.handler = ignoreStages) {job : RenderJob} {s : Snapshot}
    (hload : runner.load job.instanceId = .ok s) (shelf : Shelf) (surroundings : σ) :
    (runner.run job shelf surroundings).2.surroundings =
        (runner.maker.direct runner.backend s shelf surroundings).2 ∧
      (runner.run job shelf surroundings).1 = match (runner.maker.plan s (shelf, [])).1 with
        | .error e => .error e
        | .ok _ =>
          (runner.maker.direct runner.backend s shelf surroundings).1.mapError wrapBackend := by
  have hsame : SameOutcome (runner.stages (begun job shelf surroundings)) _ :=
    runner.stages_agree hquiet hload
  obtain ⟨hresult, hsurroundings⟩ := runner.run_stages job shelf surroundings
  rw [hresult, hsurroundings, hsame.result, hsame.surroundings, straight_eq, bind_apply,
    making_apply, DocumentMaker.direct]
  simp only [begun]
  rcases runner.maker.plan s (shelf, []) with ⟨e | plan, shelf', log⟩
  · exact ⟨rfl, rfl⟩
  · exact ⟨rfl, rfl⟩

/-- A run without handlers and the direct way to a document agree.  They ask the backend for the
    same passes, and the run returns the document and fails with the failures of the engine's own
    that the direct way does; any other failure of the backend it makes one of printing. -/
theorem run_agrees_with_direct (load : Int → Except Failure Snapshot) (maker : DocumentMaker)
    (f : String → PrintOptions → Except Failure PageRange) (job : RenderJob) (shelf : Shelf)
    {s : Snapshot} (hload : load job.instanceId = .ok s) :
    let runner : JobRunner (List PrintCall) := ⟨load, maker, .ofFunction f, ignoreStages⟩
    let ran := runner.run job shelf []
    let direct := maker.direct (.ofFunction f) s shelf []
    ran.2.surroundings = direct.2 ∧
      (∀ pdf, direct.1 = .ok pdf → ran.1 = .ok pdf) ∧
      (∀ e, direct.1 = .error e → e.isOwn → ran.1 = .error e) ∧
      ∀ call ∈ ran.2.surroundings, ∀ e, f call.1 call.2 = .error e → ¬ e.isOwn →
        ran.1 = .error (.engine (.render (.backend e.message))) := by
  intro runner ran direct
  obtain ⟨hcalls, hresult⟩ := runner.run_direct rfl hload shelf []
  have hcalls : ran.2.surroundings = direct.2 := hcalls
  rcases hplan : maker.plan s (shelf, []) with ⟨d | plan, shelf', log⟩
  · -- Without a plan both ways fail alike before anything is printed.
    have hdirect : direct = (.error d, []) := by
      simp only [direct, DocumentMaker.direct, hplan]
    have hran : ran.1 = .error d := by
      rw [hplan] at hresult
      exact hresult
    rw [hcalls, hdirect, hran]
    exact ⟨rfl, fun _ h => (nomatch h), fun _ h _ => h, fun _ h => (nomatch h)⟩
  · have hdirect : direct = ((plan.print (.ofFunction f) ([], log)).1,
        (plan.print (.ofFunction f) ([], log)).2.1) := by
      simp only [direct, DocumentMaker.direct, hplan]
      rfl
    have hran : ran.1 = direct.1.mapError wrapBackend := by
      rw [hplan] at hresult
      exact hresult
    refine ⟨hcalls, ?_, ?_, ?_⟩
    · intro pdf h
      rw [hran, h, mapError_ok]
    · intro e h hown
      rw [hran, h, mapError_error, wrapBackend_of_isOwn hown]
    · intro call hcall e hf hforeign
      rw [hcalls, hdirect] at hcall
      have hfailed : direct.1 = .error e := by
        rw [hdirect]
        exact DocumentPlan.print_error hcall hf
      rw [hran, hfailed, mapError_error, wrapBackend_of_not_isOwn hforeign]

/-- A backend that prints covers and breaks down over bodies. -/
def printsCovers (_ : String) (options : PrintOptions) : Except Failure PageRange :=
  if options.label == coverLabel then .ok ⟨coverLabel, .pages [595], 1⟩
  else .error (.outside "crashed")

/-- A run and the direct way agree where the body is not printed. -/
theorem run_agrees_over_broken_body :
    (fun _ => .ok default : Int → Except Failure Snapshot) 7 = .ok default ∧
      let runner : JobRunner (List PrintCall) :=
        ⟨fun _ => .ok default, default, .ofFunction printsCovers, ignoreStages⟩
      let ran := runner.run { instanceId := 7 } default []
      let direct := (default : DocumentMaker).direct (.ofFunction printsCovers) default default []
      ran.2.surroundings = direct.2 ∧
        (∀ pdf, direct.1 = .ok pdf → ran.1 = .ok pdf) ∧
        (∀ e, direct.1 = .error e → e.isOwn → ran.1 = .error e) ∧
        ∀ call ∈ ran.2.surroundings, ∀ e, printsCovers call.1 call.2 = .error e → ¬ e.isOwn →
          ran.1 = .error (.engine (.render (.backend e.message))) :=
  ⟨rfl, run_agrees_with_direct (fun _ => .ok default) default printsCovers { instanceId := 7 }
    default rfl⟩

end JobRunner

end FormPress
