/-
  FormPress.Proofs.Job.Outcome

  How a run ends: either all stages have passed, or there is a first one that
  failed, and the job and the events of the run tell which.
-/
import FormPress.Proofs.Job.Reached

namespace FormPress

variable {σ : Type}

/-! ## Events in order -/

/-- Nothing is seen of passes by what looks at handlers only. -/
theorem filterMap_called {β : Type} {view : RunEvent → Option β}
    (h : ∀ label, view (.called label) = none) (made : List String) :
    (made.map RunEvent.called).filterMap view = [] := by
  rw [List.filterMap_map, List.filterMap_eq_nil_iff]
  exact fun label _ => h label

theorem label?_called (made : List String) :
    (made.map RunEvent.called).filterMap RunEvent.label? = made := by
  rw [List.filterMap_map]
  exact List.filterMap_some

theorem label?_told (ks : List Stage) :
    (ks.map fun k => RunEvent.told k k.startPercent).filterMap RunEvent.label? = [] := by
  rw [List.filterMap_map, List.filterMap_eq_nil_iff]
  exact fun _ _ => rfl

theorem stage?_told (ks : List Stage) :
    (ks.map fun k => RunEvent.told k k.startPercent).filterMap RunEvent.stage? = ks := by
  rw [List.filterMap_map]
  exact List.filterMap_some

theorem percent?_told (ks : List Stage) :
    (ks.map fun k => RunEvent.told k k.startPercent).filterMap RunEvent.percent? =
      ks.map Stage.startPercent := by
  rw [List.filterMap_map, ← List.filterMap_eq_map]
  rfl

/-- The passes printed in stages that have passed are theirs. -/
theorem labels_events (done : List Stage) :
    (done.flatMap Stage.events).filterMap RunEvent.label? = done.flatMap Stage.calls := by
  rw [List.filterMap_flatMap]
  congr 1
  funext k
  rw [Stage.events, List.filterMap_append, label?_called]
  exact List.append_nil _

/-- The handlers told in stages that have passed are theirs. -/
theorem stages_events (done : List Stage) :
    (done.flatMap Stage.events).filterMap RunEvent.stage? = done := by
  induction done with
  | nil => rfl
  | cons k done ih =>
      rw [List.flatMap_cons, List.filterMap_append, ih, Stage.events, List.filterMap_append,
        filterMap_called fun _ => rfl]
      rfl

/-- The percentages told are those at which the stages start. -/
theorem percents_events (done : List Stage) :
    (done.flatMap Stage.events).filterMap RunEvent.percent? = done.map Stage.startPercent := by
  induction done with
  | nil => rfl
  | cons k done ih =>
      rw [List.flatMap_cons, List.filterMap_append, ih, Stage.events, List.filterMap_append,
        filterMap_called fun _ => rfl]
      rfl

/-! ## The order of the stages -/

/-- Later stages start at higher percentages. -/
theorem startPercent_sorted : (Stage.all.map Stage.startPercent).Pairwise (· ≤ ·) := by decide

theorem calls_all : Stage.all.flatMap Stage.calls = [coverLabel, bodyLabel] := rfl

/-- Only one stage prints the body. -/
theorem mem_calls {k : Stage} (h : bodyLabel ∈ k.calls) : k = .printBody := by
  revert h
  cases k <;> decide

/-- No stage comes twice. -/
theorem not_mem_of_split {done rest : List Stage} {k : Stage} (h : Stage.all = done ++ k :: rest) :
    k ∉ done ∧ ∀ j ∈ rest, j ∉ done ∧ j ≠ k := by
  have hnodup : Stage.all.Nodup := by decide
  -- The eight stages are all different.
  rw [h, List.nodup_append, List.nodup_cons] at hnodup
  obtain ⟨-, ⟨hk, -⟩, hdisjoint⟩ := hnodup
  refine ⟨fun hdone => hdisjoint k hdone k (List.mem_cons_self ..) rfl, fun j hj => ⟨?_, ?_⟩⟩
  · exact fun hdone => hdisjoint j hdone j (List.mem_cons_of_mem _ hj) rfl
  · rintro rfl
    exact hk hj

/-- The body has its turn after the cover. -/
theorem printCover_mem {done rest : List Stage} {k : Stage} (h : Stage.all = done ++ k :: rest)
    (hbody : Stage.printBody ∈ done ++ [k]) : .printCover ∈ done := by
  -- There are only eight ways to cut the list of stages in two.
  have hlater : ∀ n < 8, .printBody ∈ Stage.all.take (n + 1) → .printCover ∈ Stage.all.take n := by
    decide
  have hdone : Stage.all.take done.length = done := by rw [h, List.take_left]
  have hnext : Stage.all.take (done.length + 1) = done ++ [k] := by
    rw [h, List.append_cons, List.take_left']
    rw [List.length_append, List.length_singleton]
  have hlength : done.length < 8 := by
    have hall := congrArg List.length h
    rw [List.length_append, List.length_cons] at hall
    have : Stage.all.length = 8 := rfl
    omega
  rw [← hnext] at hbody
  rw [← hdone]
  exact hlater _ hlength hbody

/-! ## Outcomes -/

/-- A job that came to a good end. -/
structure RenderJob.EndedWell (job : RenderJob) : Prop where
  status : job.status = .succeeded
  stage : job.progress.stage = Stage.merge.name
  percent : job.progress.percent = 100
  errors : job.errors = []
  flags : ∀ f ∈ job.flags, ¬ IsFailureFlag f

/-- A job that failed in a stage. -/
structure RenderJob.FailedIn (job : RenderJob) (k : Stage) (e : Failure) : Prop where
  status : job.status = .failed
  stage : job.progress.stage = k.name
  percent : job.progress.percent = k.startPercent
  errors : job.errors = [e.message]
  flagged : job.flags.count k.failureFlag = 1
  flags : ∀ f ∈ job.flags, IsFailureFlag f → f = k.failureFlag

/-- A job all of whose stages have passed ends well. -/
theorem Reached.endedWell {c : RunContext} {r : JobRun (σ × List RunEvent)}
    (h : Reached Stage.all c r) : r.job.markSucceeded.EndedWell where
  status := rfl
  stage := by
    have hprogress : r.job.progress = Stage.merge.left := h.progress _ rfl
    rw [RenderJob.markSucceeded, hprogress]
    rfl
  percent := rfl
  errors := h.errors
  flags := by
    intro f hf
    rw [h.flags f hf]
    exact not_isFailureFlag_noCrest

/-- A job in which a stage has failed shows this stage and its failure. -/
theorem RenderJob.Broken.failedIn {job : RenderJob} {k : Stage} (h : job.Broken k) (e : Failure) :
    (job.markFailed e.message).FailedIn k e where
  status := rfl
  stage := congrArg JobProgress.stage h.progress
  percent := congrArg JobProgress.percent h.progress
  errors := by rw [RenderJob.markFailed, h.errors, List.nil_append]
  flagged := h.flagged
  flags := by
    intro f hf hfailure
    rcases h.flags f hf with rfl | hf
    · exact absurd hfailure not_isFailureFlag_noCrest
    · exact hf

/-- The order in which a run tells its handlers how far it is and has its passes printed. -/
structure EventLaw (events : List RunEvent) : Prop where
  percents : (events.filterMap RunEvent.percent?).Pairwise (· ≤ ·)
  calls : events.filterMap RunEvent.label? <+: [coverLabel, bodyLabel]

/-- Marking a job does not touch its fields. -/
theorem untouched_markFailed {k : Stage} {job : RenderJob} (error : String)
    (h : k.Untouched job) : k.Untouched (job.markFailed error) := by
  cases k <;> exact h

/-- A run all of whose stages have passed keeps to the order. -/
theorem Reached.eventLaw {c : RunContext} {r : JobRun (σ × List RunEvent)}
    (h : Reached Stage.all c r) : EventLaw r.surroundings.2 where
  percents := by
    rw [h.events, percents_events]
    exact startPercent_sorted
  calls := by
    have hlabels : r.surroundings.2.filterMap RunEvent.label? = [coverLabel, bodyLabel] := by
      rw [h.events, labels_events, calls_all]
    exact hlabels ▸ List.prefix_rfl

namespace FailedStage

variable {done rest handled : List Stage} {k : Stage} {made : List String}
  {r : JobRun (σ × List RunEvent)}

/-- The passes printed are those of the stages before and those made in the failing one. -/
theorem labels (h : FailedStage done k handled made r) :
    r.surroundings.2.filterMap RunEvent.label? = done.flatMap Stage.calls ++ made := by
  rw [h.events, List.filterMap_append, List.filterMap_append, labels_events, label?_called,
    label?_told, List.append_nil]

/-- The handlers told are those of the stages before and perhaps the failing one's. -/
theorem stages (h : FailedStage done k handled made r) :
    r.surroundings.2.filterMap RunEvent.stage? = done ++ handled := by
  rw [h.events, List.filterMap_append, List.filterMap_append, stages_events,
    filterMap_called fun _ => rfl, stage?_told, List.nil_append]

/-- The percentages told are those of these handlers. -/
theorem percents (h : FailedStage done k handled made r) :
    r.surroundings.2.filterMap RunEvent.percent? = (done ++ handled).map Stage.startPercent := by
  rw [h.events, List.filterMap_append, List.filterMap_append, percents_events,
    filterMap_called fun _ => rfl, percent?_told, List.nil_append, List.map_append]

/-- A run with a failed stage keeps to the order up to there. -/
theorem eventLaw (h : FailedStage done k handled made r) (hall : Stage.all = done ++ k :: rest)
    (hhandled : handled <+: [k]) : EventLaw r.surroundings.2 where
  percents := by
    -- The handlers are told in the order of the stages, as far as the run came.
    have hinit : done ++ handled <+: Stage.all := by
      rw [hall, List.append_cons, List.append_assoc]
      exact (List.prefix_append_right_inj done).mpr (hhandled.trans (List.prefix_append ..))
    rw [h.percents]
    exact startPercent_sorted.sublist (hinit.sublist.map _)
  calls := by
    rw [h.labels, ← calls_all, hall, List.flatMap_append, List.flatMap_cons]
    exact (List.prefix_append_right_inj _).mpr (h.calls.trans (List.prefix_append ..))

/-- No later stage has written its field. -/
theorem later (h : FailedStage done k handled made r) (hall : Stage.all = done ++ k :: rest) :
    ∀ j ∈ rest, j.Untouched r.job := by
  intro j hj
  obtain ⟨hdone, hk⟩ := (not_mem_of_split hall).2 j hj
  exact h.untouched j hdone hk

/-- The body is printed only if the stage of the cover has passed. -/
theorem cover_passed (h : FailedStage done k handled made r) (hall : Stage.all = done ++ k :: rest)
    (hbody : bodyLabel ∈ r.surroundings.2.filterMap RunEvent.label?) : .printCover ∈ done := by
  apply printCover_mem hall
  rw [h.labels] at hbody
  rcases List.mem_append.mp hbody with hdone | hmade
  · obtain ⟨j, hj, hlabel⟩ := List.mem_flatMap.mp hdone
    rw [← mem_calls hlabel]
    exact List.mem_append_left _ hj
  · rw [← mem_calls (h.calls.subset hmade)]
    exact List.mem_append_right _ (List.mem_singleton_self k)

end FailedStage

namespace JobRunner

variable (runner : JobRunner σ)

/-- The work of a stage fails. -/
def WorkFails (k : Stage) (c : RunContext) (r : JobRun σ) (e : Failure) : Prop :=
  (runner.work k c (r.entered k)).1 = .error e

/-- The work of a stage is done, and its handler fails. -/
def HandlerFails (k : Stage) (c : RunContext) (r : JobRun σ) (e : Failure) : Prop :=
  ∃ c' r', runner.work k c (r.entered k) = (.ok c', r') ∧
    (runner.handler k r'.job r'.surroundings).1 = .error e

variable {runner}

/-- A recorded loop that passes is one that passes. -/
theorem perform_of_recorded {ks : List Stage} {c c' : RunContext}
    {r r' : JobRun (σ × List RunEvent)} (h : runner.recorded.perform ks c r = (.ok c', r')) :
    runner.perform ks c r.forget = (.ok c', r'.forget) := by
  have hks := runner.perform_mirrors ks c r
  rw [h] at hks
  exact hks

/-- Work that fails in a recorded run fails. -/
theorem workFails_of_recorded {k : Stage} {c : RunContext} {r r' : JobRun (σ × List RunEvent)}
    {e : Failure} (h : runner.recorded.work k c (r.entered k) = (.error e, r')) :
    runner.WorkFails k c r.forget e := by
  have hwork := runner.work_mirrors k c (r.entered k)
  rw [h] at hwork
  exact congrArg Prod.fst hwork

/-- A handler that fails in a recorded run fails. -/
theorem handlerFails_of_recorded {k : Stage} {c c' : RunContext}
    {r r' : JobRun (σ × List RunEvent)} {e : Failure} {s : σ × List RunEvent}
    (h : runner.recorded.work k c (r.entered k) = (.ok c', r'))
    (hhandler : runner.recorded.handler k r'.job r'.surroundings = (.error e, s)) :
    runner.HandlerFails k c r.forget e := by
  have hwork := runner.work_mirrors k c (r.entered k)
  rw [h] at hwork
  rw [recorded_handler] at hhandler
  exact ⟨c', r'.forget, hwork, congrArg Prod.fst hhandler⟩

variable (runner)

/-- How a run of a fresh job ends, wherever the loader, the backend or a handler fails.  Either all
    stages pass and the document is returned, or there is a first stage that fails: then the job
    shows this stage, its failure and nothing of the stages after it. -/
theorem run_outcome (i : Int) (shelf : Shelf) (surroundings : σ) :
    let fresh : RenderJob := { instanceId := i }
    let start := begun fresh shelf surroundings
    let ran := runner.run fresh shelf surroundings
    let events := runner.events fresh shelf surroundings
    EventLaw events ∧
      ((∃ c r cover body pdf, runner.perform Stage.all {} start = (.ok c, r) ∧
          c.Merged cover body pdf ∧ ran.1 = .ok pdf ∧ ran.2.job.EndedWell ∧
          events.filterMap RunEvent.stage? = Stage.all) ∨
        ∃ done k rest c r e, Stage.all = done ++ k :: rest ∧
          runner.perform done {} start = (.ok c, r) ∧ ran.1 = .error e ∧ ran.2.job.FailedIn k e ∧
          (∀ j ∈ rest, j.Untouched ran.2.job) ∧
          (bodyLabel ∈ events.filterMap RunEvent.label? → .printCover ∈ done) ∧
          (runner.WorkFails k c r e ∧ k.Untouched ran.2.job ∧
              events.filterMap RunEvent.stage? = done ∨
            runner.HandlerFails k c r e ∧ events.filterMap RunEvent.stage? = done ++ [k])) := by
  intro fresh start ran events
  have hran : ran = _ := runner.recorded_run fresh shelf surroundings
  have hevents : events = (runner.recorded.run fresh shelf (surroundings, [])).2.surroundings.2 :=
    rfl
  have hbegun := reached_begun i shelf surroundings
  rcases hperform : runner.recorded.perform Stage.all {} (begun fresh shelf (surroundings, [])) with
    ⟨e | c, r⟩
  · rw [runner.recorded.run_error hperform] at hran hevents
    rw [hran, hevents]
    obtain ⟨done, k, rest, c, r₀, hall, hdone, hstage⟩ := runner.recorded.perform_error hperform
    have hreached : Reached done c r₀ := hbegun.perform hdone
    have hplain := perform_of_recorded hdone
    rcases runner.recorded.stage_error hstage with
      ⟨r₁, hwork, rfl⟩ | ⟨c', r₁, s, hwork, hhandler, rfl⟩
    · -- The work of `k` failed: its handler was not told and its field is untouched.
      obtain ⟨huntouched, made, hfailed⟩ := hreached.work_failed hwork
      have hk := huntouched (not_mem_of_split hall).1
      refine ⟨hfailed.eventLaw hall List.nil_prefix, .inr ⟨done, k, rest, c, r₀.forget, e, hall,
        hplain, rfl, hfailed.broken.failedIn e, ?_, hfailed.cover_passed hall,
        .inl ⟨workFails_of_recorded hwork, untouched_markFailed _ hk, ?_⟩⟩⟩
      · exact fun j hj => untouched_markFailed _ (hfailed.later hall j hj)
      · rw [hfailed.stages, List.append_nil]
    · -- The handler of `k` failed: it was the last to be told.
      have hfailed := hreached.handler_failed hwork hhandler
      refine ⟨hfailed.eventLaw hall List.prefix_rfl, .inr ⟨done, k, rest, c, r₀.forget, e, hall,
        hplain, rfl, hfailed.broken.failedIn e, ?_, hfailed.cover_passed hall,
        .inr ⟨handlerFails_of_recorded hwork hhandler, hfailed.stages⟩⟩⟩
      exact fun j hj => untouched_markFailed _ (hfailed.later hall j hj)
  · obtain ⟨cover, body, pdf, hmerged⟩ := runner.recorded.perform_all_ok hperform
    have hreached : Reached Stage.all c r := hbegun.perform hperform
    rw [runner.recorded.run_ok hperform hmerged.left] at hran hevents
    rw [hran, hevents]
    refine ⟨hreached.eventLaw, .inl ⟨c, r.forget, cover, body, pdf, perform_of_recorded hperform,
      hmerged, rfl, hreached.endedWell, ?_⟩⟩
    rw [hreached.events]
    exact stages_events Stage.all

end JobRunner

end FormPress
