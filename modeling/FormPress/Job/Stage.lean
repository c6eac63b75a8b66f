/-
  FormPress.Job.Stage

  The stages of a job in order, each with the span of progress that it covers.
-/

namespace FormPress

/-- A stage. -/
inductive Stage where
  | loadForm
  | resolveAnswers
  | planPages
  | renderSections
  | composeCover
  | printCover
  | printBody
  | merge
  deriving Repr, DecidableEq, Inhabited

namespace Stage

/-- All stages in order. -/
def all : List Stage :=
  [loadForm, resolveAnswers, planPages, renderSections, composeCover, printCover, printBody, merge]

/-- The name of a stage. -/
def name : Stage → String
  | loadForm => "LOAD_SCHEMA"
  | resolveAnswers => "RESOLVE_ANSWERS"
  | planPages => "PLAN_PAGES"
  | renderSections => "RENDER_SECTIONS"
  | composeCover => "COMPOSE_COVER"
  | printCover => "RENDER_COVER_PASS"
  | printBody => "RENDER_BODY_PASS"
  | merge => "MERGE"

/-- The percentage at which a stage starts. -/
def startPercent : Stage → Int
  | loadForm => 0
  | resolveAnswers => 10
  | planPages => 15
  | renderSections => 20
  | composeCover => 40
  | printCover => 45
  | printBody => 60
  | merge => 90

/-- The percentage at which a stage ends. -/
def endPercent : Stage → Int
  | loadForm => 10
  | resolveAnswers => 15
  | planPages => 20
  | renderSections => 40
  | composeCover => 45
  | printCover => 60
  | printBody => 90
  | merge => 100

end Stage

end FormPress
