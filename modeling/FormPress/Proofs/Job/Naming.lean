/-
  FormPress.Proofs.Job.Naming

  The name of a document's file.  The first stage writes it and no other stage
  touches it (`Stage.Keeps.fileName`), so a document that is printed has the
  name that its form instance gives it (`run_named`).
-/
import FormPress.Proofs.Job.Work

namespace FormPress

variable {σ : Type}

namespace Stage.Keeps

variable {k : Stage} {job job' : RenderJob}

/-- No stage but the first changes the name. -/
theorem fileName (h : k.Keeps job job') (hk : k ≠ .loadForm) : job'.fileName = job.fileName := by
  have hname := congrArg RenderJob.fileName h.cleared
  cases k
  case loadForm => exact absurd rfl hk
  all_goals exact hname

end Stage.Keeps

namespace JobRunner

variable (runner : JobRunner σ) {c c' : RunContext} {r r' : JobRun (σ × List RunEvent)}

/-- A stage after the first leaves the name alone. -/
theorem stage_fileName {k : Stage} (hk : k ≠ .loadForm) (hc : c.Labelled)
    (h : runner.recorded.stage k (runner.recorded.work k c) r = (.ok c', r')) :
    c'.Labelled ∧ r'.job.fileName = r.job.fileName := by
  obtain ⟨r₁, s, hwork, -, rfl⟩ := runner.recorded.stage_ok h
  have hlaw := runner.work_law hc (r.entered k) k
  rw [hwork] at hlaw
  obtain ⟨hlabelled, hkeeps, -⟩ := hlaw
  exact ⟨hlabelled, hkeeps.fileName hk⟩

/-- No stages without the first change the name. -/
theorem perform_fileName {ks : List Stage} (hks : .loadForm ∉ ks) (hc : c.Labelled)
    (h : runner.recorded.perform ks c r = (.ok c', r')) : r'.job.fileName = r.job.fileName := by
  induction ks generalizing c r with
  | nil =>
      cases h
      rfl
  | cons k ks ih =>
      obtain ⟨c₁, r₁, hstage, hrest⟩ := bind_ok h
      have hk : k ≠ .loadForm := fun heq => hks (heq ▸ List.mem_cons_self ..)
      obtain ⟨hc₁, hname⟩ := runner.stage_fileName hk hc hstage
      rw [ih (fun hmem => hks (List.mem_cons_of_mem _ hmem)) hc₁ hrest, hname]

/-- After all stages the name is that of the form instance. -/
theorem perform_all_fileName (h : runner.recorded.perform Stage.all {} r = (.ok c', r')) :
    ∃ s, runner.load r.job.instanceId = .ok s ∧ r'.job.fileName = some s.fileName := by
  obtain ⟨c₁, r₁, hfirst, hrest⟩ := bind_ok h
  obtain ⟨r₂, t, hwork, -, rfl⟩ := runner.recorded.stage_ok hfirst
  obtain ⟨s, r₃, hload, hcontext⟩ := bind_ok hwork
  cases hcontext
  rw [loadForm_apply] at hload
  rcases hloaded : runner.recorded.load (r.entered .loadForm).job.instanceId with e | s'
  · simp only [hloaded] at hload
    cases hload
  · simp only [hloaded] at hload
    cases hload
    -- The snapshot is all that the context holds so far, so there is no plan to be labelled.
    have hlabelled : RunContext.Labelled { snapshot := some s } := by
      rintro plan ⟨⟩
    exact ⟨s, hloaded, runner.perform_fileName (by decide) hlabelled hrest⟩

/-- A document that is printed has the name that its form instance gives it. -/
theorem run_named {job : RenderJob} {shelf : Shelf} {s : σ} {pdf : Pdf}
    (h : (runner.run job shelf s).1 = .ok pdf) :
    ∃ snapshot, runner.load job.instanceId = .ok snapshot ∧
      (runner.run job shelf s).2.job.fileName = some snapshot.fileName := by
  rw [recorded_run] at h ⊢
  rcases hperform : runner.recorded.perform Stage.all {} (begun job shelf (s, [])) with
    ⟨e | c, r⟩
  · rw [runner.recorded.run_error hperform] at h
    cases h
  · obtain ⟨cover, body, pdf', hmerged⟩ := runner.recorded.perform_all_ok hperform
    obtain ⟨snapshot, hload, hname⟩ := runner.perform_all_fileName hperform
    rw [runner.recorded.run_ok hperform hmerged.left]
    exact ⟨snapshot, hload, hname⟩

end JobRunner

end FormPress
