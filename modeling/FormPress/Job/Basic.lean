/-
  FormPress.Job.Basic

  A job: the rendering of one form instance, with its status, its progress, what
  it counted, and the flags and errors on the way.
-/
import FormPress.Record.Moment

namespace FormPress

/-- Where a job stands. -/
inductive JobStatus where
  | queued
  | running
  | succeeded
  | failed
  deriving Repr, DecidableEq, Inhabited

namespace JobStatus

/-- All statuses. -/
def all : List JobStatus := [queued, running, succeeded, failed]

/-- The word for a status. -/
def word : JobStatus → String
  | queued => "queued"
  | running => "running"
  | succeeded => "succeeded"
  | failed => "failed"

/-- The status that a word stands for. -/
def ofWord? (s : String) : Option JobStatus := all.find? fun x => x.word == s

/-- Reading the word of a status gives the status. -/
theorem ofWord?_word (x : JobStatus) : ofWord? x.word = some x := by cases x <;> decide

end JobStatus

/-- How far a job has come. -/
structure JobProgress where
  stage : String := "INIT"
  percent : Int := 0
  message : String := ""
  deriving Repr, DecidableEq, Inhabited

/-- What a job counted. -/
structure JobResult where
  coverPages : Int := 0
  bodyPages : Int := 0
  totalPages : Int := 0
  pageGroups : Int := 0
  headingNumbers : List Int := []
  deriving Repr, DecidableEq, Inhabited

/-- A job. Of the times only whether they are set is kept. -/
structure RenderJob where
  instanceId : Int
  fileName : Option String := none
  status : JobStatus := .queued
  progress : JobProgress := {}
  result : JobResult := {}
  flags : List String := []
  errors : List String := []
  started : Bool := false
  finished : Bool := false
  deriving Repr, DecidableEq, Inhabited

/-- The stage in which a job starts where none is named. -/
def firstStageName : String := "LOAD_SCHEMA"

namespace RenderJob

variable (job : RenderJob)

/-- Starts the job in a stage. -/
def markRunning (stage : String := firstStageName) : RenderJob :=
  { job with status := .running, started := true, progress := { job.progress with stage := stage } }

/-- Ends the job well. -/
def markSucceeded : RenderJob :=
  { job with
    status := .succeeded, finished := true, progress := { job.progress with percent := 100 } }

/-- Ends the job with an error. -/
def markFailed (error : String) : RenderJob :=
  { job with status := .failed, finished := true, errors := job.errors ++ [error] }

/-- Adds a flag that the job does not have yet. -/
def addFlag (flag : String) : RenderJob :=
  if job.flags.contains flag then job else { job with flags := job.flags ++ [flag] }

end RenderJob

/-! ## Reading -/

/-- Reads how far a job has come. -/
def JobProgress.read (f : Fields) : Check JobProgress :=
  let d : JobProgress := {}
  JobProgress.mk <$> f.optional "stage" Read.text d.stage
    <*> f.optional "percent" Read.whole d.percent
    <*> f.optional "message" Read.text d.message

/-- Reads what a job counted. -/
def JobResult.read (f : Fields) : Check JobResult :=
  let d : JobResult := {}
  JobResult.mk <$> f.optional "cover_pages" Read.whole d.coverPages
    <*> f.optional "body_pages" Read.whole d.bodyPages
    <*> f.optional "total_pages" Read.whole d.totalPages
    <*> f.optional "page_groups" Read.whole d.pageGroups
    <*> f.optional "heading_numbers" (Read.listOf Read.whole) d.headingNumbers

/-- Reads a job. -/
def RenderJob.read (f : Fields) : Check RenderJob :=
  (fun instanceId fileName status progress result flags errors (_ : Unit) started finished =>
      RenderJob.mk instanceId fileName status progress result flags errors started finished)
    <$> f.required "instance_id" Read.whole
    <*> f.optional "filename" (Read.nullable Read.text) none
    <*> f.optional "status" (Read.choice JobStatus.ofWord?) .queued
    <*> f.optional "progress" (Read.record JobProgress.read) {}
    <*> f.optional "result" (Read.record JobResult.read) {}
    <*> f.optional "flags" Read.texts []
    <*> f.optional "errors" Read.texts []
    <*> f.optional "created_at" Read.moment ()
    <*> f.optional "started_at" (fun v => (Read.nullable Read.moment v).map (·.isSome)) false
    <*> f.optional "finished_at" (fun v => (Read.nullable Read.moment v).map (·.isSome)) false

end FormPress
