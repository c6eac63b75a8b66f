/-
  FormPress.Proofs.Job.Independence

  What a run does not depend on.  The logos that were loaded before it make no
  difference as long as the files stay as they are, and neither does anything
  in the surroundings that the backend and the handler take no notice of
  (`run_matches`).  Of the files only those at which logos are looked for matter
  (`run_seeing`).
-/
import FormPress.Proofs.Job.Loop
import FormPress.Proofs.Logos.Search

namespace FormPress

variable {σ α : Type}

/-! ## Making documents -/

namespace DocumentMaker

variable {maker : DocumentMaker} {R : Shelf → Shelf → Prop}

/-- Making a part of a document comes out the same with loaded logos that are related. -/
abbrev Independent (R : Shelf → Shelf → Prop) (m : Making α) : Prop :=
  Respects (fun s t => R s.1 t.1) m

variable (hR : Shelf.Indistinct maker.files R)

include hR

/-- A search for a logo finds the same with logos that no search can tell apart. -/
theorem search_independent {find : Files → AssetSettings → Shelf → Found} {paths : List Path}
    (hfind : ∀ shelf,
      find maker.files maker.settings.assets shelf = shelf.first maker.files paths) :
    Independent R (maker.search find) := by
  intro s t h
  simp only [search, hfind]
  exact hR s.1 t.1 h paths

/-- The crest of a form is the same with logos that no search can tell apart. -/
theorem crest_independent (form : Form) : Independent R (maker.crest form) := by
  have hsearch : Independent R (maker.search Shelf.crest) := search_independent hR fun _ => rfl
  rw [crest]
  -- Only a form without a picture of its own has its crest searched for.
  cases form.headerImage with
  | none => exact hsearch
  | some s =>
      by_cases hempty : (s == "") = true
      · simp only [if_pos hempty]
        exact hsearch
      · simp only [if_neg hempty]
        exact .pure _

theorem cover_independent (s : Snapshot) (answers : AnswerBook) :
    Independent R (maker.cover s answers) :=
  (crest_independent hR s.form).bind fun _ => .pure _

/-- The plan looks for the crest and the text logo only. -/
theorem assemble_independent (s : Snapshot) (answers : AnswerBook) (pages : List BodyPage)
    (cover : Cover) : Independent R (maker.assemble s answers pages cover) := by
  refine Respects.bind ?_ fun header => .pure _
  refine (crest_independent hR s.form).bind fun crest => .bind ?_ fun logo => .pure _
  exact search_independent hR fun _ => rfl

end DocumentMaker

/-! ## Files that make no difference -/

namespace DocumentMaker

variable {maker : DocumentMaker} {files : Files}

/-- A search finds the same in other files that agree on its paths. -/
theorem search_seeing {find : Files → AssetSettings → Shelf → Found} {paths : List Path}
    (hfind : ∀ files shelf, find files maker.settings.assets shelf = shelf.first files paths)
    (h : Files.AgreeOn paths maker.files files) :
    (maker.seeing files).search find = maker.search find := by
  funext ⟨shelf, log⟩
  simp only [search, seeing, hfind, Shelf.first_of_agree h]

variable (h : Files.AgreeOn maker.settings.assets.logoPaths maker.files files)

include h

theorem search_crest_seeing : (maker.seeing files).search Shelf.crest = maker.search Shelf.crest :=
  search_seeing (fun _ _ => rfl) (h.mono fun _ hp => List.mem_append_left _ hp)

theorem search_textLogo_seeing :
    (maker.seeing files).search Shelf.textLogo = maker.search Shelf.textLogo :=
  search_seeing (fun _ _ => rfl) (h.mono fun _ hp => List.mem_append_right _ hp)

/-- The crest of a form is the same with other files that agree. -/
theorem crest_seeing (form : Form) : (maker.seeing files).crest form = maker.crest form := by
  rw [crest, crest, search_crest_seeing h]

theorem cover_seeing (s : Snapshot) (answers : AnswerBook) :
    (maker.seeing files).cover s answers = maker.cover s answers := by
  rw [cover, cover, crest_seeing h]
  rfl

/-- The plan is the same with other files that agree. -/
theorem assemble_seeing (s : Snapshot) (answers : AnswerBook) (pages : List BodyPage)
    (cover : Cover) :
    (maker.seeing files).assemble s answers pages cover = maker.assemble s answers pages cover := by
  rw [assemble, assemble, header, header, crest_seeing h, search_textLogo_seeing h]
  rfl

end DocumentMaker

namespace JobRunner

variable {runner : JobRunner σ} {files : Files}
  (h : Files.AgreeOn runner.maker.settings.assets.logoPaths runner.maker.files files)

include h

/-- The stage that looks for logos comes out the same with other files that agree. -/
theorem composeCover_seeing :
    (runner.seeing files).composeCover = runner.composeCover := by
  funext s answers pages
  rw [composeCover, composeCover, seeing, DocumentMaker.cover_seeing h]
  simp only [DocumentMaker.assemble_seeing h]

/-- A run comes out the same with other files if those at which logos are looked for are the
    same. -/
theorem run_seeing : (runner.seeing files).run = runner.run := by
  -- The stage that makes the cover is the only one that looks at files.
  have hstages : (runner.seeing files).stages = runner.stages := by
    rw [stages, stages, composeCover_seeing h]
    rfl
  funext job shelf surroundings
  rw [run, run, execute, execute, hstages]

end JobRunner

/-! ## Printing -/

/-- The backend and the handler come out the same in surroundings that are alike, and leave
    surroundings that are. -/
structure JobRunner.RespectsSurroundings (alike : σ → σ → Prop) (runner : JobRunner σ) : Prop where
  print : ∀ html options s t, alike s t →
    (runner.backend.print html options s).result = (runner.backend.print html options t).result ∧
      alike (runner.backend.print html options s).state (runner.backend.print html options t).state
  handler : ∀ k job s t, alike s t →
    (runner.handler k job s).1 = (runner.handler k job t).1 ∧
      alike (runner.handler k job s).2 (runner.handler k job t).2

section

variable {alike : σ → σ → Prop} {runner : JobRunner σ}

theorem JobRunner.RespectsSurroundings.seeing (h : runner.RespectsSurroundings alike)
    (files : Files) : (runner.seeing files).RespectsSurroundings alike := ⟨h.print, h.handler⟩

/-- Printing comes out the same in surroundings that are alike. -/
abbrev Printing.RespectsSurroundings (alike : σ → σ → Prop) (p : Printing σ α) : Prop :=
  Respects (fun s t => alike s.1 t.1) p

namespace Printing

theorem pass_respects (h : runner.RespectsSurroundings alike) (html : String)
    (options : PrintOptions) : RespectsSurroundings alike (pass runner.backend html options) :=
  fun s t hst => h.print html options s.1 t.1 hst

theorem note_respects (entry : LogEntry) : RespectsSurroundings alike (note entry) :=
  fun _ _ h => ⟨rfl, h⟩

end Printing

namespace DocumentPlan

variable (plan : DocumentPlan) (h : runner.RespectsSurroundings alike)

include h

/-- The cover is printed alike in surroundings that are alike. -/
theorem printCover_respects :
    Printing.RespectsSurroundings alike (plan.printCover runner.backend) := by
  refine (Printing.pass_respects h plan.coverHtml plan.coverOptions).bind fun cover => ?_
  by_cases hmany : 1 < cover.pageCount
  · simp only [if_pos hmany]
    exact (Printing.note_respects _).bind fun _ => .lift _
  · simp only [if_neg hmany]
    exact .pure cover

/-- The body is printed alike in surroundings that are alike. -/
theorem printBody_respects :
    Printing.RespectsSurroundings alike (plan.printBody runner.backend) := by
  refine (Printing.pass_respects h plan.bodyHtml plan.bodyOptions).bind fun body => ?_
  by_cases hfew : body.pageCount < plan.expectedPages
  · simp only [if_pos hfew]
    exact (Printing.note_respects _).bind fun _ => .pure body
  · simp only [if_neg hfew]
    exact .pure body

end DocumentPlan

/-! ## Runs -/

/-- Two runs that have come to the same, with loaded logos that are related and in surroundings that
    are alike. -/
structure JobRun.Matches (alike : σ → σ → Prop) (R : Shelf → Shelf → Prop) (r r' : JobRun σ) :
    Prop where
  job : r.job = r'.job
  shelf : R r.shelf r'.shelf
  surroundings : alike r.surroundings r'.surroundings

/-- A step of a run comes out the same in runs that match. -/
abbrev RunStep.RespectsMatch (alike : σ → σ → Prop) (R : Shelf → Shelf → Prop)
    (m : RunStep σ α) : Prop :=
  Respects (JobRun.Matches alike R) m

namespace RunStep

variable {R : Shelf → Shelf → Prop}

theorem changeJob_respects (f : RenderJob → RenderJob) :
    RespectsMatch alike R (changeJob f) := fun _ _ h =>
  ⟨rfl, congrArg f h.job, h.shelf, h.surroundings⟩

theorem need_respects (name : String) (a : Option α) :
    RespectsMatch alike R (need name a) := by
  cases a with
  | none => exact .throw _
  | some a => exact .pure a

/-- What is made comes out the same in runs that match. -/
theorem making_respects {m : Making α} (hm : DocumentMaker.Independent R m) :
    RespectsMatch alike R (making m) := by
  intro r r' h
  obtain ⟨hresult, hshelf⟩ := hm (r.shelf, r.log) (r'.shelf, r'.log) h.shelf
  rw [making_apply, making_apply]
  exact ⟨hresult, h.job, hshelf, h.surroundings⟩

/-- What is printed comes out the same in runs that match. -/
theorem printing_respects {p : Printing σ α} (hp : Printing.RespectsSurroundings alike p) :
    RespectsMatch alike R (printing p) := by
  intro r r' h
  obtain ⟨hresult, hstate⟩ := hp (r.surroundings, r.log) (r'.surroundings, r'.log) h.surroundings
  rw [printing_apply, printing_apply]
  exact ⟨congrArg (Except.mapError wrapBackend) hresult, h.job, h.shelf, hstate⟩

end RunStep

namespace JobRunner

open RunStep

variable {R : Shelf → Shelf → Prop} (hR : Shelf.Indistinct runner.maker.files R)
  (h : runner.RespectsSurroundings alike)

theorem loadForm_respects : RespectsMatch alike R runner.loadForm := by
  intro r r' h
  rw [loadForm_apply, loadForm_apply, h.job]
  cases runner.load r'.job.instanceId with
  | error e => exact ⟨rfl, h⟩
  | ok s => exact ⟨rfl, rfl, h.shelf, h.surroundings⟩

theorem count_respects (f : JobResult → JobResult) :
    RespectsMatch alike R (count f) := changeJob_respects _

include h

/-- A stage comes out the same in runs that match if its work does. -/
theorem stage_respects (k : Stage) {w : RunStep σ α} (hw : RespectsMatch alike R w) :
    RespectsMatch alike R (runner.stage k w) := by
  intro r r' hr
  obtain ⟨hresult, hstate⟩ := hw (r.entered k) (r'.entered k)
    ⟨congrArg (fun job => { job with progress := k.entered }) hr.job, hr.shelf,
      hr.surroundings⟩
  rw [stage_apply, stage_apply]
  rcases hrun : w (r.entered k) with ⟨result, r₁⟩
  rcases hrun' : w (r'.entered k) with ⟨result', r₁'⟩
  rw [hrun, hrun'] at hresult hstate
  obtain rfl : result = result' := hresult
  have hmatch : r₁.Matches alike R r₁' := hstate
  obtain ⟨hjob, hshelf, hsurroundings⟩ := hmatch
  cases result with
  | error e => exact ⟨rfl, congrArg (·.addFlag k.failureFlag) hjob, hshelf, hsurroundings⟩
  | ok a =>
      -- The handler is told of the same job, in surroundings that are still alike.
      obtain ⟨htold, hafter⟩ := h.handler k r₁.job r₁.surroundings r₁'.surroundings hsurroundings
      simp only [← hjob]
      rcases hhold : runner.handler k r₁.job r₁.surroundings with ⟨answer, s⟩
      rcases hhold' : runner.handler k r₁.job r₁'.surroundings with ⟨answer', s'⟩
      rw [hhold, hhold'] at htold hafter
      obtain rfl : answer = answer' := htold
      cases answer with
      | error e => exact ⟨rfl, rfl, hshelf, hafter⟩
      | ok _ => exact ⟨rfl, rfl, hshelf, hafter⟩

include hR

/-- The work of every stage comes out the same in runs that match. -/
theorem work_respects (k : Stage) (c : RunContext) :
    RespectsMatch alike R (runner.work k c) := by
  cases k with
  | loadForm => exact loadForm_respects.bind fun s => .pure _
  | resolveAnswers => exact (need_respects _ _).bind fun s => .pure _
  | planPages =>
      refine (need_respects _ _).bind fun s => .bind ?_ fun groups => .pure _
      exact (count_respects _).bind fun _ => .pure _
  | renderSections =>
      exact (need_respects _ _).bind fun groups => (need_respects _ _).bind fun answers => .pure _
  | composeCover =>
      refine (need_respects _ _).bind fun s => (need_respects _ _).bind fun answers =>
        (need_respects _ _).bind fun pages => .bind ?_ fun plan => .pure _
      -- The only stage that looks for logos.
      refine (making_respects (DocumentMaker.cover_independent hR s answers)).bind fun cover =>
        (making_respects (DocumentMaker.assemble_independent hR s answers pages cover)).bind
          fun plan => (count_respects _).bind fun _ => ?_
      by_cases hcrest : cover.crest.isNone
      · simp only [if_pos hcrest]
        exact (changeJob_respects _).bind fun _ => .pure plan
      · simp only [if_neg hcrest]
        exact .pure plan
  | printCover =>
      refine (need_respects _ _).bind fun plan => .bind ?_ fun cover => .pure _
      exact (printing_respects (plan.printCover_respects h)).bind fun cover =>
        (count_respects _).bind fun _ => .pure cover
  | printBody =>
      refine (need_respects _ _).bind fun plan => .bind ?_ fun body => .pure _
      exact (printing_respects (plan.printBody_respects h)).bind fun body =>
        (count_respects _).bind fun _ => .pure body
  | merge =>
      refine (need_respects _ _).bind fun cover => (need_respects _ _).bind fun body =>
        .bind ?_ fun pdf => .pure _
      exact .bind (.lift _) fun pdf => (count_respects _).bind fun _ => .pure pdf

/-- The loop comes out the same in runs that match. -/
theorem perform_respects (ks : List Stage) (c : RunContext) :
    RespectsMatch alike R (runner.perform ks c) := by
  induction ks generalizing c with
  | nil => exact .pure c
  | cons k ks ih => exact (stage_respects h k (work_respects hR h k c)).bind ih

theorem stages_respects : RespectsMatch alike R runner.stages := by
  rw [stages_eq]
  exact (perform_respects hR h _ _).bind fun c => need_respects _ _

/-- A run comes out the same with loaded logos that no search can tell apart, in all surroundings that
    are alike, and so does its job. -/
theorem run_matches (job : RenderJob) {shelf shelf' : Shelf} {s s' : σ}
    (hshelf : R shelf shelf') (hs : alike s s') :
    (runner.run job shelf s).1 = (runner.run job shelf' s').1 ∧
      (runner.run job shelf s).2.Matches alike R
        (runner.run job shelf' s').2 := by
  -- Behind the stages only the ending is written on the job, by their result.
  obtain ⟨hresult, hstate⟩ := stages_respects hR h (begun job shelf s) (begun job shelf' s')
    ⟨rfl, hshelf, hs⟩
  have hrun : runner.run job shelf s = runner.execute ⟨job, shelf, [], s⟩ := rfl
  have hrun' : runner.run job shelf' s' = runner.execute ⟨job, shelf', [], s'⟩ := rfl
  rw [hrun, hrun', execute_apply, execute_apply]
  rw [begun, begun] at hresult hstate
  rcases hstages : runner.stages ⟨job.markRunning Stage.loadForm.name, shelf, [], s⟩ with
    ⟨result, r⟩
  rcases hstages' : runner.stages ⟨job.markRunning Stage.loadForm.name, shelf', [], s'⟩ with
    ⟨result', r'⟩
  rw [hstages, hstages'] at hresult hstate
  obtain rfl : result = result' := hresult
  obtain ⟨hjob, hr, hsurroundings⟩ := hstate
  cases result with
  | error e => exact ⟨rfl, congrArg (·.markFailed e.message) hjob, hr, hsurroundings⟩
  | ok pdf => exact ⟨rfl, congrArg RenderJob.markSucceeded hjob, hr, hsurroundings⟩

end JobRunner

end

end FormPress
