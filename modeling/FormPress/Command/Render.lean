/-
  FormPress.Command.Render

  The command that renders form instances out of a file: to pages of markup, or
  to printed documents. An instance that fails when printed is reported and does
  not stop the others.
-/
import FormPress.Command.Outcome
import FormPress.Job.Run
import FormPress.Print.Browser
import FormPress.Profile.Library
import FormPress.Settings.Logging
import FormPress.Tables.Load

namespace FormPress.Command

/-! ## Arguments -/

/-- The options of the command. -/
def renderOptions : List OptionSpec :=
  [⟨"--instance", .value⟩, ⟨"--out-dir", .value⟩, ⟨"--config", .value⟩, ⟨"--html-only", .switch⟩]

/-- What is to be rendered, and how. -/
structure RenderRequest where
  source : Option String := none
  /-- the ids of the instances; two dashes in the place of an id are the empty list -/
  instances : List Value := []
  /-- the folder for the results, unless two dashes are in its place -/
  folder : Option String := some "output"
  settings : String := ""
  htmlOnly : Bool := false
  /-- whether something was given that has no meaning -/
  strange : Bool := false
  deriving Repr, Inhabited

namespace RenderRequest

/-- The id that an argument stands for. -/
def instanceOf : Option String → Except Refusal Value
  | none => .ok (.list [])
  | some s =>
    match wholeArgument? s with
    | some n => .ok (.int n)
    | none => .error .wrong

/-- Takes in one thing given. -/
def accept (r : RenderRequest) : Given → Except Refusal RenderRequest
  | .plain s => .ok { r with source := some s }
  | .option "--instance" v => do
    let id ← instanceOf v
    return { r with instances := r.instances ++ [id] }
  | .option "--out-dir" v => .ok { r with folder := v }
  | .option _ v => .ok { r with settings := v.getD "" }
  | .switch _ => .ok { r with htmlOnly := true }
  | .help => .error .help
  | .stray => .ok { r with strange := true }
  | .broken => .error .wrong

/-- The request that arguments make. -/
def ofArguments (args : List String) : Except Refusal RenderRequest := do
  let all ← given renderOptions 1 args
  let r ← all.foldlM accept {}
  if r.source.isNone || r.strange then .error .wrong else return r

/-- The path of the settings. -/
def settingsPath (r : RenderRequest) : Path :=
  if r.settings == "" then Settings.standardPath else .ofText r.settings

/-- The path of the tables. -/
def sourcePath (r : RenderRequest) : Path := .ofText (r.source.getD "")

/-- The folder for the results. -/
def folderPath (r : RenderRequest) : Except Failure Path :=
  match r.folder with
  | some s => .ok (.ofText s)
  | none => .error (.misuse (.asPath "list"))

end RenderRequest

/-! ## Getting ready -/

/-- What is needed to render some instances. -/
structure RenderSetup where
  settings : Settings
  tables : FormTables
  ids : List Value

/-- Reads the settings and the tables. -/
def setUp (files : Files) (env : Environment) (r : RenderRequest) : Except Failure RenderSetup := do
  let settings ← Settings.ofFile files env r.settingsPath
  let _ ← settings.log.start
  let tables ← FormTables.ofFile files r.sourcePath
  let ids ← if r.instances.isEmpty then tables.instanceIds else pure r.instances
  return ⟨settings, tables, ids⟩

/-- The maker of the documents. -/
def makerOf (files : Files) (settings : Settings) : Except Failure DocumentMaker := do
  let profile ← Profile.ofPath files settings.profilePath
  return ⟨profile, settings, files⟩

/-! ## Markup -/

/-- The file of a page of an instance. -/
def markupPath (folder : Path) (id : Value) (page : String) : Path :=
  folder.join (.ofText ("form-" ++ id.display ++ "." ++ page ++ ".html"))

/-- The line about the markup of an instance. -/
def markupLine (id : Value) (plan : DocumentPlan) : String :=
  id.display ++ ": groups=" ++ toString plan.pages.length ++ " headings=" ++
    (Value.list (plan.headingNumbers.map Value.int)).inspect

/-- The files of a document that is not printed. -/
def markupFiles (folder : Path) (id : Value) (plan : DocumentPlan) : List (Path × String) :=
  [(markupPath folder id "cover", plan.coverHtml), (markupPath folder id "body", plan.bodyHtml)]

/-- Writes the markup of some instances, up to the first that fails. -/
def writeMarkup (load : Value → Except Failure Snapshot) (maker : DocumentMaker) (folder : Path) :
    List Value → Shelf → Results → Outcome
  | [], _, results => ⟨.code 0, [], results.written⟩
  | id :: rest, shelf, results =>
    match load id with
    | .error e => ⟨.failed e, [], results.written⟩
    | .ok s =>
      let (made, shelf, _) := ((maker.seeing results.files).plan s).run.run (shelf, [])
      match made with
      | .error e => ⟨.failed e, [], results.written⟩
      | .ok plan =>
        match results.putAll (markupFiles folder id plan) with
        | (results, some e) => ⟨.failed e, [], results.written⟩
        | (results, none) =>
          (writeMarkup load maker folder rest shelf results).after (markupLine id plan)

/-! ## Printed documents -/

/-- What printing some instances left behind: lines, files, how many failed, and the session. -/
structure Batch (σ : Type) where
  lines : List String
  results : Results
  failures : Nat
  session : BrowserSession σ
  /-- what ended the batch before its last instance -/
  stopped : Option Failure

/-- A job that is about to run. -/
def jobOf (id : Value) : Except Failure RenderJob :=
  (RenderJob.read [(.text "instance_id", id)]).orFail .job

/-- The line about an instance that was printed. -/
def printedLine (id : Value) (job : RenderJob) (target : Path) : String :=
  id.display ++ ": pages=" ++ toString job.result.totalPages ++ " -> " ++ target.text

/-- The line about an instance that failed. -/
def failedLine (id : Value) (e : Failure) : String := id.display ++ ": ERROR " ++ e.message

/-- The file of the document of a job. -/
def printedPath (folder : Path) (job : RenderJob) : Path :=
  folder.join (.ofText (job.fileName.getD ""))

/-- Puts the report on one instance in front of those on others. -/
def Batch.report {σ : Type} (line : String) (failures : Nat) (b : Batch σ) : Batch σ :=
  { b with lines := line :: b.lines, failures := failures + b.failures }

/-- Prints some instances in order. The documents that are written are files that later instances
    may come upon. -/
def printAll {σ : Type} (host : BrowserHost σ) (runner : JobRunner (BrowserSession σ))
    (folder : Path) : List Value → Shelf → Results → BrowserSession σ → Batch σ
  | [], _, results, session => ⟨[], results, 0, session, none⟩
  | id :: rest, shelf, results, session =>
    match jobOf id with
    | .error e => ⟨[], results, 0, session, some e⟩
    | .ok job =>
      let (result, run) := (runner.seeing results.files).run job shelf session
      match result with
      | .ok pdf =>
        let target := printedPath folder run.job
        match results.putPrinted target pdf (host.saved run.surroundings.host pdf) with
        | (results, some e) => ⟨[], results, 0, run.surroundings, some e⟩
        | (results, none) =>
          (printAll host runner folder rest run.shelf results run.surroundings).report
            (printedLine id run.job target) 0
      | .error e =>
        (printAll host runner folder rest run.shelf results run.surroundings).report
          (failedLine id e) 1

/-- Prints some instances with a browser that is opened before and closed after them. -/
def printDocuments {σ : Type} (host : BrowserHost σ) (setup : RenderSetup) (maker : DocumentMaker)
    (folder : Path) (results : Results) (start : σ) : Outcome × BrowserSession σ :=
  let settings := setup.settings.browser
  let (opened, session) :=
    (BrowserStep.openBrowser host settings).run.run (BrowserSession.fresh start)
  match opened with
  | .error e => (.failed e, session)
  | .ok () =>
    let runner : JobRunner (BrowserSession σ) :=
      { load := fun id => setup.tables.load (.int id)
        maker := maker
        backend := host.backend settings
        handler := ignoreStages }
    let batch := printAll host runner folder setup.ids [] results session
    let (closed, session) := (BrowserStep.close host).run.run batch.session
    let ending : Ending :=
      match closed, batch.stopped with
      | .error e, _ => .failed e
      | .ok (), some e => .failed e
      | .ok (), none => .code (if batch.failures == 0 then 0 else 1)
    (⟨ending, batch.lines, batch.results.written⟩, session)

/-! ## The command -/

/-- What is printed where there is nothing to render. -/
def noInstances : String := "快照中没有表单实例"

/-- The folder for the results, and the files once it is there. -/
def folderOf (files : Files) (r : RenderRequest) : Except Failure (Path × Files) := do
  let folder ← r.folderPath
  let files ← (files.makeFolders true folder).mapError (Failure.file folder)
  return (folder, files)

/-- Renders what a request asks for. -/
def renderRequest {σ : Type} (files : Files) (env : Environment) (host : BrowserHost σ) (start : σ)
    (r : RenderRequest) : Outcome × BrowserSession σ :=
  match setUp files env r with
  | .error e => (.failed e, .fresh start)
  | .ok setup =>
    if setup.ids.isEmpty then (⟨.code 1, [noInstances], []⟩, .fresh start)
    else
      match folderOf files r with
      | .error e => (.failed e, .fresh start)
      | .ok (folder, files) =>
        match makerOf files setup.settings with
        | .error e => (.failed e, .fresh start)
        | .ok maker =>
          if r.htmlOnly then
            (writeMarkup setup.tables.load maker folder setup.ids [] { files := files },
              .fresh start)
          else printDocuments host setup maker folder { files := files } start

/-- Renders what some arguments ask for. -/
def render {σ : Type} (files : Files) (env : Environment) (host : BrowserHost σ) (start : σ)
    (args : List String) : Outcome × BrowserSession σ :=
  match RenderRequest.ofArguments args with
  | .error r => (.refused r, .fresh start)
  | .ok r => renderRequest files env host start r

end FormPress.Command
