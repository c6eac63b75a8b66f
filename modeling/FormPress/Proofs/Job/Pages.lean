/-
  FormPress.Proofs.Job.Pages

  The pages of a document against the pages of its two passes (`PageLaw`): the
  first page of the cover and all pages of the body, or a failure that names the
  first range whose pages cannot be read.  Printing keeps one page of the cover
  whatever the pass returned (`printCover_result`), so the law for printing is a
  law of cutting and joining ranges; a run prints by the same steps and counts
  what they return (`run_counts`).
-/
import FormPress.Proofs.Job.Direct
import FormPress.Proofs.Print.Ranges

namespace FormPress

variable {σ α β : Type}

/-! ## Printing -/

namespace Backend

variable (b : Backend σ) (plan : DocumentPlan) (state : σ)

/-- What the pass of the cover returns. -/
def coverPass : Except Failure PageRange := (b.print plan.coverHtml plan.coverOptions state).result

/-- What the pass of the body returns after that of the cover. -/
def bodyPass : Except Failure PageRange :=
  (b.print plan.bodyHtml plan.bodyOptions
    (b.print plan.coverHtml plan.coverOptions state).state).result

end Backend

namespace DocumentPlan

/-- What becomes of the ranges that the two passes have returned. -/
structure PageLaw (cover body : PageRange) (result : Except Failure Pdf) : Prop where
  printed : ∀ page rest bodyPages, cover.Holds (page :: rest) → body.Holds bodyPages →
    result = .ok (.pages (page :: bodyPages))
  coverUnreadable : cover.pdf = .unreadable → result =
    .error (pageFailure (if 1 < cover.pageCount then .cut cover.label else .join cover.label))
  bodyUnreadable : ∀ coverPages, cover.pdf = .pages coverPages → body.pdf = .unreadable →
    result = .error (pageFailure (.join body.label))

variable {plan : DocumentPlan} {b : Backend σ} {state : σ} {cover body : PageRange}

/-- Of the cover at most one page is kept; a cover of one page is not cut. -/
theorem printCover_result (h : b.coverPass plan state = .ok cover) (log : List LogEntry) :
    (plan.printCover b (state, log)).1 = cover.take 1 := by
  rw [Backend.coverPass] at h
  by_cases hmany : 1 < cover.pageCount
  · simp only [printCover, bind_apply, Printing.pass, h, if_pos hmany, Printing.note, lift_apply]
  · have hfits : cover.pageCount ≤ 1 := by omega
    simp only [printCover, bind_apply, Printing.pass, h, if_neg hmany, pure_apply, PageRange.take,
      if_pos hfits]

/-- Of the body all pages are kept. -/
theorem printBody_result {state : σ}
    (h : (b.print plan.bodyHtml plan.bodyOptions state).result = .ok body) (log : List LogEntry) :
    (plan.printBody b (state, log)).1 = .ok body := by
  by_cases hfew : body.pageCount < plan.expectedPages
  · simp only [printBody, bind_apply, Printing.pass, h, if_pos hfew, Printing.note, pure_apply]
  · simp only [printBody, bind_apply, Printing.pass, h, if_neg hfew, pure_apply]

/-- The two passes as steps, with what they return. -/
theorem printed_of_passes (hcover : b.coverPass plan state = .ok cover)
    (hbody : b.bodyPass plan state = .ok body) (log : List LogEntry) :
    ∃ t₁ t₂, plan.printCover b (state, log) = (cover.take 1, t₁) ∧
      plan.printBody b t₁ = (.ok body, t₂) := by
  have hstate := plan.printCover_state b state log
  have hkept := printCover_result hcover log
  rcases hprinted : plan.printCover b (state, log) with ⟨result, state₁, log₁⟩
  rw [hprinted] at hstate hkept
  obtain rfl : state₁ = _ := hstate
  obtain rfl : result = cover.take 1 := hkept
  exact ⟨_, _, rfl, Prod.ext (printBody_result hbody log₁) rfl⟩

/-- Printing a document cuts the cover and joins the body to it. -/
theorem print_result (hcover : b.coverPass plan state = .ok cover)
    (hbody : b.bodyPass plan state = .ok body) (log : List LogEntry) :
    (plan.print b (state, log)).1 = cover.take 1 >>= fun kept => PageRange.merge [kept, body] := by
  obtain ⟨t₁, t₂, hfirst, hsecond⟩ := printed_of_passes hcover hbody log
  rw [print_apply, hfirst]
  rcases cover.take 1 with e | kept
  · rfl
  · simp only [hsecond]
    rfl

/-- Cutting the cover to one page and joining the body to it keeps the law of pages. -/
theorem pageLaw_of_ranges (cover body : PageRange) :
    PageLaw cover body (cover.take 1 >>= fun kept => PageRange.merge [kept, body]) where
  printed page rest bodyPages hcover hbody := by
    -- Both ranges say how many pages they have, so the cut keeps one.
    obtain ⟨kept, htake, -, hkept⟩ := hcover.take_one
    rw [htake]
    change PageRange.merge [kept, body] = _
    rw [PageRange.merge_pages (.cons hkept.readable (.cons hbody.readable .nil))]
    simp only [List.flatten_cons, List.flatten_nil, List.append_nil, List.singleton_append]
  coverUnreadable hcover := by
    -- A cover of one page is not cut, so that it fails only when it is joined.
    rw [PageRange.take_unreadable hcover]
    by_cases hmany : 1 < cover.pageCount
    · rw [if_pos hmany, if_neg (by omega)]
      rfl
    · rw [if_neg hmany, if_pos (by omega)]
      exact PageRange.merge_cons_unreadable hcover
  bodyUnreadable coverPages hcover hbody := by
    obtain ⟨kept, keptPages, htake, hkept⟩ := PageRange.take_readable hcover 1
    have hbefore : ∀ r ∈ [kept], ∃ pages, r.pdf = .pages pages :=
      List.forall_mem_singleton.mpr ⟨keptPages, hkept⟩
    rw [htake]
    exact PageRange.merge_unreadable hbefore hbody

/-- A document that is printed has the first page of its cover and all pages of its body. -/
theorem print_pageLaw (hcover : b.coverPass plan state = .ok cover)
    (hbody : b.bodyPass plan state = .ok body) (log : List LogEntry) :
    PageLaw cover body (plan.print b (state, log)).1 := by
  rw [print_result hcover hbody]
  exact pageLaw_of_ranges cover body

end DocumentPlan

/-! ## Running -/

/-- The pages that a job has counted. -/
structure RenderJob.Counted (job : RenderJob) (coverPages bodyPages totalPages : Int) : Prop where
  cover : job.result.coverPages = coverPages
  body : job.result.bodyPages = bodyPages
  total : job.result.totalPages = totalPages

namespace JobRunner

variable {runner : JobRunner σ}

open RunStep

/-- A step that succeeds with a value and leaves a state of some kind. -/
def Yields (x : RunStep σ α) (r : JobRun σ) (a : α) (P : JobRun σ → Prop) : Prop :=
  ∃ r', x r = (.ok a, r') ∧ P r'

/-- A stage without a handler succeeds as its work does. -/
theorem stage_of_work (hquiet : runner.handler = ignoreStages) {k : Stage} {w : RunStep σ α}
    {r r₁ : JobRun σ} {a : α} (h : w (r.entered k) = (.ok a, r₁)) :
    runner.stage k w r = (.ok a, r₁.left k) := by
  rw [stage_apply, h, hquiet]
  rfl

/-- After a stage without a handler whose work succeeds, the rest of a run goes on. -/
theorem yields_after (hquiet : runner.handler = ignoreStages) {k : Stage} {w : RunStep σ α}
    {f : α → RunStep σ β} {r r₁ : JobRun σ} {a : α} {b : β} {P : JobRun σ → Prop}
    (hwork : w (r.entered k) = (.ok a, r₁)) (hrest : Yields (f a) (r₁.left k) b P) :
    Yields (runner.stage k w >>= f) r b P := by
  rw [Yields, bind_apply, stage_of_work hquiet hwork]
  exact hrest

/-- A form that is loaded gives the job its file. -/
theorem loadForm_of_load {r : JobRun σ} {s : Snapshot}
    (h : runner.load r.job.instanceId = .ok s) :
    runner.loadForm r = (.ok s, { r with job := { r.job with fileName := some s.fileName } }) := by
  rw [loadForm_apply, h]

/-- Planning the pages counts the groups. -/
theorem planPages_apply (s : Snapshot) (r : JobRun σ) :
    planPages s r = (.ok (PageGroup.plan s.steps), { r with job := { r.job with result :=
      { r.job.result with pageGroups := (PageGroup.plan s.steps).length } } }) := rfl

/-- Making the cover and the plan in a run leaves the job alone but for what it has found. -/
theorem composeCover_apply (runner : JobRunner σ) (s : Snapshot) {answers : AnswerBook}
    {pages : List BodyPage} {plan : DocumentPlan} {shelf shelf' : Shelf} {log log' : List LogEntry}
    (h : (do
      let cover ← runner.maker.cover s answers
      runner.maker.assemble s answers pages cover : Making DocumentPlan) (shelf, log) =
        (.ok plan, shelf', log')) (job : RenderJob) (surroundings : σ) :
    ∃ job', runner.composeCover s answers pages ⟨job, shelf, log, surroundings⟩ =
      (.ok plan, ⟨job', shelf', log', surroundings⟩) := by
  obtain ⟨cover, ⟨shelf₁, log₁⟩, hcover, hplan⟩ := bind_ok h
  simp only [composeCover, bind_apply, making_apply, hcover, hplan, count, changeJob_apply]
  by_cases hcrest : cover.crest.isNone
  · rw [if_pos hcrest]
    exact ⟨_, rfl⟩
  · rw [if_neg hcrest]
    exact ⟨_, rfl⟩

/-- A cover that is printed has its pages counted. -/
theorem printCover_apply {plan : DocumentPlan} {cover : PageRange} {r : JobRun σ}
    {t : σ × List LogEntry}
    (h : plan.printCover runner.backend (r.surroundings, r.log) = (.ok cover, t)) :
    runner.printCover plan r = (.ok cover, { r with
      job := { r.job with result := { r.job.result with coverPages := cover.pageCount } }
      surroundings := t.1
      log := t.2 }) := by
  simp only [printCover, bind_apply, printing_apply, h, mapError_ok, count, changeJob_apply,
    pure_apply]

/-- A body that is printed has its pages counted. -/
theorem printBody_apply {plan : DocumentPlan} {body : PageRange} {r : JobRun σ}
    {t : σ × List LogEntry}
    (h : plan.printBody runner.backend (r.surroundings, r.log) = (.ok body, t)) :
    runner.printBody plan r = (.ok body, { r with
      job := { r.job with result := { r.job.result with bodyPages := body.pageCount } }
      surroundings := t.1
      log := t.2 }) := by
  simp only [printBody, bind_apply, printing_apply, h, mapError_ok, count, changeJob_apply,
    pure_apply]

/-- Ranges that are joined have their pages added up. -/
theorem merge_apply {cover body : PageRange} {pdf : Pdf}
    (h : PageRange.merge [cover, body] = .ok pdf) (r : JobRun σ) :
    merge cover body r = (.ok pdf, { r with
      job := { r.job with result :=
        { r.job.result with totalPages := r.job.result.coverPages + r.job.result.bodyPages } } }) := by
  simp only [merge, bind_apply, lift_apply, h, count, changeJob_apply, pure_apply]

/-- A run whose passes are printed and joined counts what they were said to have. -/
theorem run_counts (hquiet : runner.handler = ignoreStages) {job : RenderJob} {s : Snapshot}
    (hload : runner.load job.instanceId = .ok s) {shelf shelf' : Shelf} {plan : DocumentPlan}
    {log : List LogEntry} (hplan : runner.maker.plan s (shelf, []) = (.ok plan, shelf', log))
    {surroundings : σ} {cover body : PageRange} {t₁ t₂ : σ × List LogEntry}
    (hcover : plan.printCover runner.backend (surroundings, log) = (.ok cover, t₁))
    (hbody : plan.printBody runner.backend t₁ = (.ok body, t₂))
    {pdf : Pdf} (hmerge : PageRange.merge [cover, body] = .ok pdf) :
    (runner.run job shelf surroundings).1 = .ok pdf ∧
      (runner.run job shelf surroundings).2.job.Counted cover.pageCount body.pageCount
        (cover.pageCount + body.pageCount) := by
  have hstages : Yields runner.stages (begun job shelf surroundings) pdf
      fun r => r.job.Counted cover.pageCount body.pageCount (cover.pageCount + body.pageCount) := by
    -- Before the cover is made, the shelf, the notes and the surroundings are as at the start.
    refine yields_after hquiet (loadForm_of_load hload) ?_
    refine yields_after hquiet (pure_apply _ _) ?_
    refine yields_after hquiet (planPages_apply s _) ?_
    refine yields_after hquiet (pure_apply _ _) ?_
    rw [DocumentMaker.plan_eq_assemble] at hplan
    obtain ⟨composed, hcompose⟩ := runner.composeCover_apply s hplan _ surroundings
    refine yields_after hquiet hcompose ?_
    refine yields_after hquiet (printCover_apply hcover) ?_
    refine yields_after hquiet (printBody_apply hbody) ?_
    exact ⟨_, stage_of_work hquiet (merge_apply hmerge _), rfl, rfl, rfl⟩
  obtain ⟨r, hstages, hcounted⟩ := hstages
  have hrun : runner.run job shelf surroundings = runner.execute ⟨job, shelf, [], surroundings⟩ :=
    rfl
  rw [begun] at hstages
  rw [hrun, execute_apply, hstages]
  exact ⟨rfl, hcounted.cover, hcounted.body, hcounted.total⟩

/-- A run comes to what printing its plan comes to, where its passes return ranges. -/
theorem run_pageLaw (hquiet : runner.handler = ignoreStages) {job : RenderJob} {s : Snapshot}
    (hload : runner.load job.instanceId = .ok s) {shelf : Shelf} {plan : DocumentPlan}
    (hplan : (runner.maker.plan s (shelf, [])).1 = .ok plan) {surroundings : σ}
    {cover body : PageRange} (hcover : runner.backend.coverPass plan surroundings = .ok cover)
    (hbody : runner.backend.bodyPass plan surroundings = .ok body) :
    DocumentPlan.PageLaw cover body (runner.run job shelf surroundings).1 := by
  have hdirect := (runner.run_direct hquiet hload shelf surroundings).2
  rcases hmade : runner.maker.plan s (shelf, []) with ⟨result, shelf', log⟩
  obtain rfl : result = .ok plan := by rw [← hplan, hmade]
  have hprinted := DocumentPlan.print_pageLaw hcover hbody log
  have hresult : (runner.run job shelf surroundings).1 =
      (plan.print runner.backend (surroundings, log)).1.mapError wrapBackend := by
    simp only [hmade, DocumentMaker.direct] at hdirect
    exact hdirect
  rw [hresult]
  -- The failures of the law are the engine's own, so a run leaves their wording alone.
  refine ⟨fun page rest bodyPages hc hb => ?_, fun hc => ?_, fun coverPages hc hb => ?_⟩
  · rw [hprinted.printed page rest bodyPages hc hb, mapError_ok]
  · rw [hprinted.coverUnreadable hc, mapError_error]
    rfl
  · rw [hprinted.bodyUnreadable coverPages hc hb, mapError_error]
    rfl

/-- A run counts one page of the cover, the pages of the body and the pages of its document. -/
theorem run_counted (hquiet : runner.handler = ignoreStages) {job : RenderJob} {s : Snapshot}
    (hload : runner.load job.instanceId = .ok s) {shelf : Shelf} {plan : DocumentPlan}
    (hplan : (runner.maker.plan s (shelf, [])).1 = .ok plan) {surroundings : σ}
    {cover body : PageRange} (hcover : runner.backend.coverPass plan surroundings = .ok cover)
    (hbody : runner.backend.bodyPass plan surroundings = .ok body)
    {page : Int} {rest bodyPages : List Int} (hcoverHolds : cover.Holds (page :: rest))
    (hbodyHolds : body.Holds bodyPages) :
    (runner.run job shelf surroundings).2.job.Counted 1 bodyPages.length
      (page :: bodyPages).length := by
  rcases hmade : runner.maker.plan s (shelf, []) with ⟨result, shelf', log⟩
  obtain rfl : result = .ok plan := by rw [← hplan, hmade]
  obtain ⟨t₁, t₂, hfirst, hsecond⟩ := DocumentPlan.printed_of_passes hcover hbody log
  obtain ⟨kept, htake, -, hkept⟩ := hcoverHolds.take_one
  rw [htake] at hfirst
  have hmerge := PageRange.merge_pages (.cons hkept.readable (.cons hbodyHolds.readable .nil))
  obtain ⟨-, hcounted⟩ := run_counts hquiet hload hmade hfirst hsecond hmerge
  have hone : kept.pageCount = 1 := hkept.counted
  have hall : body.pageCount = bodyPages.length := hbodyHolds.counted
  refine ⟨?_, ?_, ?_⟩
  · rw [hcounted.cover, hone]
  · rw [hcounted.body, hall]
  · rw [hcounted.total, hone, hall, List.length_cons]
    omega

/-- The pages of a document.  Cutting a range that can be read and says how many pages it has keeps
    its first pages and their number; joining ranges that can be read is appending their pages.  So
    a document has the first page of its cover and all pages of its body, or names the first range
    that cannot be read, whether it is printed from a plan or by a run; and a run counts its pages
    as they are. -/
theorem page_law :
    (∀ (r : PageRange) (pages : List Int) (n : Int), r.Holds pages → 0 ≤ n →
      ∃ r', r.take n = .ok r' ∧ r'.label = r.label ∧ r'.Holds (pages.take n.toNat) ∧
        r'.pageCount = min n pages.length) ∧
    (∀ (ranges : List PageRange) (documents : List (List Int)),
      List.Forall₂ (fun r pages => r.pdf = .pages pages) ranges documents →
        PageRange.merge ranges = .ok (.pages documents.flatten)) ∧
    (∀ (plan : DocumentPlan) (b : Backend σ) (state : σ) (log : List LogEntry)
      (cover body : PageRange), b.coverPass plan state = .ok cover →
        b.bodyPass plan state = .ok body →
          DocumentPlan.PageLaw cover body (plan.print b (state, log)).1) ∧
    ∀ (runner : JobRunner σ) (job : RenderJob) (s : Snapshot) (shelf : Shelf) (plan : DocumentPlan)
      (surroundings : σ) (cover body : PageRange), runner.handler = ignoreStages →
      runner.load job.instanceId = .ok s → (runner.maker.plan s (shelf, [])).1 = .ok plan →
      runner.backend.coverPass plan surroundings = .ok cover →
      runner.backend.bodyPass plan surroundings = .ok body →
        let ran := runner.run job shelf surroundings
        DocumentPlan.PageLaw cover body ran.1 ∧
          ∀ page rest bodyPages, cover.Holds (page :: rest) → body.Holds bodyPages →
            ran.2.job.Counted 1 bodyPages.length (page :: bodyPages).length := by
  refine ⟨fun r pages n h hn => h.take hn, fun _ _ h => PageRange.merge_pages h,
    fun plan b state log cover body hcover hbody => DocumentPlan.print_pageLaw hcover hbody log, ?_⟩
  intro runner job s shelf plan surroundings cover body hquiet hload hplan hcover hbody
  exact ⟨run_pageLaw hquiet hload hplan hcover hbody, fun page rest bodyPages hc hb =>
    run_counted hquiet hload hplan hcover hbody hc hb⟩

/-- The backend that returns one range for the first pass and another one for any later pass. -/
def inTurn (cover body : PageRange) : Backend Nat where
  print _ _ passes := ⟨.ok (if passes = 0 then cover else body), [], passes + 1⟩

/-- A cover of three pages before a body of two, and the same body with bytes that cannot be read. -/
theorem page_law_of_overflowing_cover :
    let cover : PageRange := ⟨coverLabel, .pages [595, 596, 597], 3⟩
    let body : PageRange := ⟨bodyLabel, .pages [842, 843], 2⟩
    let broken : PageRange := ⟨bodyLabel, .unreadable, 2⟩
    let runner (b : Backend Nat) : JobRunner Nat := ⟨fun _ => .ok default, default, b, ignoreStages⟩
    let ran := (runner (inTurn cover body)).run { instanceId := 7 } default 0
    let failed := (runner (inTurn cover broken)).run { instanceId := 7 } default 0
    (∃ r', cover.take 2 = .ok r' ∧ r'.label = coverLabel ∧ r'.Holds [595, 596] ∧
      r'.pageCount = 2) ∧
    PageRange.merge [cover, body] = .ok (.pages [595, 596, 597, 842, 843]) ∧
    ran.1 = .ok (.pages [595, 842, 843]) ∧ ran.2.job.Counted 1 2 3 ∧
    failed.1 = .error (pageFailure (.join bodyLabel)) := by
  intro cover body broken runner ran failed
  obtain ⟨hcut, hjoin, -, hrun⟩ := @page_law Nat
  have hcover : cover.Holds [595, 596, 597] := ⟨rfl, rfl⟩
  have hbody : body.Holds [842, 843] := ⟨rfl, rfl⟩
  have hplan : ((default : DocumentMaker).plan default (default, [])).1 =
      .ok ((default : DocumentMaker).planWith default none ⟨none, none⟩) :=
    congrArg Prod.fst (DocumentMaker.plan_default rfl)
  obtain ⟨hprinted, hcounted⟩ := hrun (runner (inTurn cover body)) { instanceId := 7 } default
    default _ 0 cover body rfl rfl hplan rfl rfl
  obtain ⟨hbroken, -⟩ := hrun (runner (inTurn cover broken)) { instanceId := 7 } default default _ 0
    cover broken rfl rfl hplan rfl rfl
  exact ⟨hcut cover _ 2 hcover (by decide),
    hjoin _ _ (.cons hcover.readable (.cons hbody.readable .nil)),
    hprinted.printed _ _ _ hcover hbody, hcounted _ _ _ hcover hbody,
    hbroken.bodyUnreadable _ hcover.readable rfl⟩

end JobRunner

end FormPress
