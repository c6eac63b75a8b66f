/-
  FormPress.Job.Run

  Running a job: all stages in order, up to the first that fails. Progress, flags
  and counts are written into the job on the way; a failure of a backend that is
  not the engine's own is made one.
-/
import FormPress.Document.Assembly
import FormPress.Job.Basic
import FormPress.Job.Stage

namespace FormPress

/-! ## What a run works with -/

/-- What a run has changed: the job, the logos loaded, the notes, and the surroundings. -/
structure JobRun (σ : Type) where
  job : RenderJob
  shelf : Shelf
  log : List LogEntry
  surroundings : σ
  deriving Inhabited

/-- What a job is run with. The handler is told of every stage whose work is done, and may make
    the stage fail. -/
structure JobRunner (σ : Type) where
  load : Int → Except Failure Snapshot
  maker : DocumentMaker
  backend : Backend σ
  handler : Stage → RenderJob → σ → Except Failure Unit × σ

/-- The handler that does nothing. -/
def ignoreStages {σ : Type} (_ : Stage) (_ : RenderJob) (surroundings : σ) :
    Except Failure Unit × σ :=
  (.ok (), surroundings)

/-- A step of a run. -/
abbrev RunStep (σ α : Type) := ExceptT Failure (StateM (JobRun σ)) α

namespace RunStep

variable {σ α : Type}

/-- Changes the job. -/
def changeJob (f : RenderJob → RenderJob) : RunStep σ Unit := fun r =>
  (.ok (), { r with job := f r.job })

/-- Leaves a note. -/
def note (entry : LogEntry) : RunStep σ Unit := fun r =>
  (.ok (), { r with log := r.log ++ [entry] })

/-- A step of making a document. -/
def making (m : Making α) : RunStep σ α := fun r =>
  let (result, shelf, log) := m (r.shelf, r.log)
  (result, { r with shelf := shelf, log := log })

/-- A failure of a backend as the engine's own. -/
def wrapBackend (e : Failure) : Failure :=
  if e.isOwn then e else .engine (.render (.backend e.message))

/-- A step of printing. -/
def printing (p : Printing σ α) : RunStep σ α := fun r =>
  let (result, surroundings, log) := p (r.surroundings, r.log)
  (result.mapError wrapBackend, { r with surroundings := surroundings, log := log })

/-- Tells the handler of a stage. -/
def tell (runner : JobRunner σ) (stage : Stage) : RunStep σ Unit := fun r =>
  let (result, surroundings) := runner.handler stage r.job r.surroundings
  (result, { r with surroundings := surroundings })

end RunStep

/-! ## Stages -/

/-- The progress at the start of a stage. -/
def Stage.entered (s : Stage) : JobProgress := ⟨s.name, s.startPercent, "开始阶段: " ++ s.name⟩

/-- The progress at the end of a stage. -/
def Stage.left (s : Stage) : JobProgress := ⟨s.name, s.endPercent, "完成阶段: " ++ s.name⟩

/-- The flag of a stage that failed. -/
def Stage.failureFlag (s : Stage) : String := "阶段失败:" ++ s.name

/-- The flag of a document without a crest. -/
def noCrestFlag : String := "缺少徽标"

/-- The note on a stage that failed. -/
def stageFailed (job : RenderJob) (s : Stage) (e : Failure) : LogEntry :=
  .error ("[" ++ toString job.instanceId ++ "] 阶段失败 " ++ s.name ++ ": " ++ e.message)

/-- The note on a job that failed. -/
def jobFailed (job : RenderJob) : LogEntry :=
  .error ("渲染失败: instance=" ++ toString job.instanceId)

namespace JobRunner

variable {σ α : Type} (runner : JobRunner σ)

open RunStep

/-- The runner with the files as they are by now. -/
def seeing (files : Files) : JobRunner σ := { runner with maker := runner.maker.seeing files }

/-- Does the work of a stage and tells the handler. -/
def stage (s : Stage) (work : RunStep σ α) : RunStep σ α := do
  changeJob fun job => { job with progress := s.entered }
  let a ←
    try
      let a ← work
      tell runner s
      pure a
    catch e =>
      note (stageFailed (← get).job s e)
      changeJob (·.addFlag s.failureFlag)
      throw e
  changeJob fun job => { job with progress := s.left }
  return a

/-- Changes what the job counts. -/
def count (f : JobResult → JobResult) : RunStep σ Unit :=
  changeJob fun job => { job with result := f job.result }

/-- Loads the form instance and names the file of the document. -/
def loadForm : RunStep σ Snapshot := do
  let s ← (runner.load (← get).job.instanceId : Except Failure Snapshot)
  changeJob fun job => { job with fileName := some s.fileName }
  return s

/-- Groups the steps into pages and counts the groups. -/
def planPages (s : Snapshot) : RunStep σ (List PageGroup) := do
  let groups := PageGroup.plan s.steps
  count fun r => { r with pageGroups := groups.length }
  return groups

/-- Makes the cover and the plan of the document. -/
def composeCover (s : Snapshot) (answers : AnswerBook) (pages : List BodyPage) :
    RunStep σ DocumentPlan := do
  let cover ← making (runner.maker.cover s answers)
  let plan ← making (runner.maker.assemble s answers pages cover)
  count fun r => { r with headingNumbers := plan.headingNumbers }
  if cover.crest.isNone then changeJob (·.addFlag noCrestFlag)
  return plan

/-- Prints the cover and counts its pages. -/
def printCover (plan : DocumentPlan) : RunStep σ PageRange := do
  let cover ← printing (plan.printCover runner.backend)
  count fun r => { r with coverPages := cover.pageCount }
  return cover

/-- Prints the body and counts its pages. -/
def printBody (plan : DocumentPlan) : RunStep σ PageRange := do
  let body ← printing (plan.printBody runner.backend)
  count fun r => { r with bodyPages := body.pageCount }
  return body

/-- Joins the pages of the cover and the body and counts them all. -/
def merge (cover body : PageRange) : RunStep σ Pdf := do
  let pdf ← (PageRange.merge [cover, body] : Except Failure Pdf)
  count fun r => { r with totalPages := r.coverPages + r.bodyPages }
  return pdf

/-! ## Whole runs -/

/-- All stages in order. -/
def stages : RunStep σ Pdf := do
  let s ← runner.stage .loadForm runner.loadForm
  let answers ← runner.stage .resolveAnswers (pure (AnswerBook.ofSnapshot s))
  let groups ← runner.stage .planPages (planPages s)
  let pages ← runner.stage .renderSections (pure (runner.maker.pages answers groups).1)
  let plan ← runner.stage .composeCover (runner.composeCover s answers pages)
  let cover ← runner.stage .printCover (runner.printCover plan)
  let body ← runner.stage .printBody (runner.printBody plan)
  runner.stage .merge (merge cover body)

/-- Runs a job to its end, good or bad. -/
def execute : RunStep σ Pdf := do
  changeJob (·.markRunning Stage.loadForm.name)
  try
    let pdf ← runner.stages
    changeJob (·.markSucceeded)
    return pdf
  catch e =>
    note (jobFailed (← get).job)
    changeJob (·.markFailed e.message)
    throw e

/-- Runs a job in some surroundings, with the logos loaded so far. -/
def run (job : RenderJob) (shelf : Shelf) (surroundings : σ) : Except Failure Pdf × JobRun σ :=
  runner.execute.run.run ⟨job, shelf, [], surroundings⟩

end JobRunner

end FormPress
