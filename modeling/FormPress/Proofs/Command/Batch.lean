/-
  FormPress.Proofs.Command.Batch

  The command that prints the form instances of a file.  Up to the one with which
  the batch ends, each instance has its line, its document in the file of its
  name, and the outcome that it has on its own, unless a document printed before
  it lies where logos are looked for (`batch_isolated_unless_stopped`).  Such a
  document is taken for a logo (`printed_document_is_logo`).
-/
import FormPress.Proofs.Browser.Alike
import FormPress.Proofs.Browser.Custody
import FormPress.Proofs.Browser.Failures
import FormPress.Proofs.Command.Attempts
import FormPress.Proofs.Job.Naming
import FormPress.Proofs.Record.Fields
import FormPress.Proofs.Tables.Reading
import Mathlib.Data.List.TakeWhile

namespace FormPress.Command

variable {σ : Type}

/-! ## Instances and their files -/

/-- The number of a job is what its id is read as. -/
theorem whole_of_jobOf {id : Value} {job : RenderJob} (h : jobOf id = .ok job) :
    Read.whole id = .fits job.instanceId := by
  rw [jobOf] at h
  rcases hread : RenderJob.read [(.text "instance_id", id)] with job' | fs
  · rw [hread] at h
    obtain rfl : job' = job := Except.ok.inj h
    have hread : ∃ b, RenderJob.read [(.text "instance_id", id)] = .fits b ∧ b = job' :=
      ⟨job', hread, rfl⟩
    simp only [RenderJob.read, Check.exists_seq, Check.exists_map] at hread
    obtain ⟨n, hn, _, -, _, -, _, -, _, -, _, -, _, -, _, -, _, -, _, -, rfl⟩ := hread
    exact Check.fits_of_inside hn
  · rw [hread] at h
    cases h

/-- A form instance has the number under which it is loaded. -/
theorem instanceId_of_load {t : FormTables} {n : Int} {s : Snapshot}
    (h : t.load (.int n) = .ok s) : s.instanceId = n := by
  simp only [FormTables.load, bind_eq_ok_iff] at h
  obtain ⟨record, -, form, -, steps, -, answers, -, number, hnumber, hs⟩ := h
  cases hs
  exact (Except.ok.inj hnumber).symm

/-- What the instances of a batch are printed with. -/
def batchRunner (host : BrowserHost σ) (setup : RenderSetup) (maker : DocumentMaker) :
    JobRunner (BrowserSession σ) where
  load id := setup.tables.load (.int id)
  maker := maker
  backend := host.backend setup.settings.browser
  handler := ignoreStages

section

variable {host : BrowserHost σ} {setup : RenderSetup} {maker : DocumentMaker} {folder : Path}
  {turn : Turn σ} {ids : List Value}

/-- A document of a batch is named by the number of its instance. -/
theorem printedPath_of_attempt {id : Value} {job : RenderJob} {pdf : Pdf}
    (h : (attempt host (batchRunner host setup maker) folder turn id).result = .ok (job, pdf)) :
    ∃ n, Read.whole id = .fits n ∧
      printedPath folder job = folder.join (.ofText ("form-" ++ toString n ++ ".pdf")) := by
  rcases hjob : jobOf id with e | job₀
  · rw [attempt_of_bad_id hjob] at h
    cases h
  · rw [attempt_of_job hjob, Attempt.ofRun_result] at h
    rcases hrun : ((batchRunner host setup maker).seeing turn.files).run job₀ turn.shelf
      turn.session with ⟨e | pdf', run⟩
    · rw [hrun] at h
      cases h
    · rw [hrun] at h
      cases h
      have hprinted : (((batchRunner host setup maker).seeing turn.files).run job₀ turn.shelf
          turn.session).1 = .ok pdf := by
        rw [hrun]
      obtain ⟨snapshot, hload, hname⟩ := JobRunner.run_named _ hprinted
      rw [hrun] at hname
      refine ⟨job₀.instanceId, whole_of_jobOf hjob, ?_⟩
      rw [printedPath, hname, Option.getD_some, Snapshot.fileName, instanceId_of_load hload]

/-- Printing in a browser comes out the same in sessions that are alike. -/
theorem batchRunner_respects :
    (batchRunner host setup maker).RespectsSurroundings (BrowserSession.Alike host) where
  -- The handler is the one that passes all stages over.
  print html options s t h :=
    BrowserStep.renderPass_respects setup.settings.browser html options s t h
  handler _ _ _ _ h := ⟨rfl, h⟩

/-- With a browser held at first, one is held before every attempt. -/
theorem browser_before (hturn : turn.session.browser = true) {a : Attempt σ}
    {front later : List (Attempt σ)}
    (hsplit : attempts host (batchRunner host setup maker) folder turn ids = front ++ a :: later) :
    a.before.session.browser = true := by
  refine before_of_kept (fun t => t.session.browser = true) (fun _ => True) ?_ hturn hsplit
    fun _ _ => trivial
  intro t id ht _
  exact (attempt_respects batchRunner_respects ⟨ht, ht, .refl host t.session.host⟩ id).2.browser

/-- As long as no document is written where logos are looked for, the logos stay as they were. -/
theorem logosKept_before {files : Files} {session : BrowserSession σ}
    (hsession : session.browser = true) {a : Attempt σ} {front later : List (Attempt σ)}
    (hsplit : attempts host (batchRunner host setup maker) folder ⟨files, [], session⟩ ids =
      front ++ a :: later)
    (hfront : ∀ b ∈ front, b.SparesLogos files folder maker.settings.assets) :
    a.before.LogosKept files maker.settings.assets := by
  -- What is kept from attempt to attempt: a held browser and the logos as they were.
  have hkept := before_of_kept
    (fun t => t.session.browser = true ∧ t.LogosKept files maker.settings.assets)
    (fun b => b.SparesLogos files folder maker.settings.assets) ?_
    ⟨hsession, .refl files, .refl _ files, .empty files⟩ hsplit hfront
  · exact hkept.2
  · intro t id ⟨ht, hkept⟩ hspares
    have hself : BrowserSession.Alike host t.session t.session :=
      ⟨ht, ht, .refl host t.session.host⟩
    exact ⟨(attempt_respects batchRunner_respects hself id).2.browser,
      logosKept_after batchRunner_respects hself hkept hspares⟩

end

/-- A browser that was opened is held. -/
theorem browser_of_opened {host : BrowserHost σ} {settings : BrowserSettings}
    {s session : BrowserSession σ}
    (h : (BrowserStep.openBrowser host settings) s = (.ok (), session)) :
    session.browser = true := by
  generalize hs : s.held = before
  obtain ⟨⟨es, notes, result, held⟩, hopening, hruns⟩ :=
    BrowserStep.openBrowser_runs host settings hs
  have hresult := hruns.result
  have hheld := hruns.held
  rw [h] at hresult hheld
  obtain rfl : notes = [] := by cases hopening <;> rfl
  obtain rfl : result = .ok () := hresult.symm
  have hbrowser := hopening.browser_of_ok
  rw [← show session.held = held from hheld] at hbrowser
  exact hbrowser

/-! ## The command -/

/-- What a batch of printed documents comes to.  Every instance has its turn.  Up to the one with
    which the batch ends, each has one line and each that has a document finds it in its file, where
    a later one of the same name replaces it.  An instance comes out the same in any session whose
    host answers as the host did then, and comes out as it does on its own if no document was
    written before it where logos are looked for.  A batch that does not end before its time tells
    by its code whether an instance has failed, unless the browser cannot be closed. -/
structure BatchLaw (host : BrowserHost σ) (runner : JobRunner (BrowserSession σ)) (files : Files)
    (folder : Path) (session : BrowserSession σ) (ids : List Value) (all : List (Attempt σ))
    (o : Outcome) : Prop where
  attempted : all.map (·.id) = ids
  lines : o.lines = (carriedOut files folder all).map (·.line folder)
  written : ∀ place, Table.get? o.written place =
    (carriedOut files folder all).reverse.findSome? (·.fileAt files folder place)
  named : ∀ a ∈ all, ∀ job pdf, a.result = .ok (job, pdf) → ∃ n, Read.whole a.id = .fits n ∧
    printedPath folder job = folder.join (.ofText ("form-" ++ toString n ++ ".pdf"))
  isolated : ∀ before a later, all = before ++ a :: later → a.before.session.browser = true ∧
    ∀ t, BrowserSession.Alike host a.before.session t →
      (attempt host runner folder { a.before with session := t } a.id).result = a.result ∧
      ((∀ b ∈ before, b.SparesLogos files folder runner.maker.settings.assets) →
        (attempt host runner folder ⟨files, [], t⟩ a.id).result = a.result)
  through : (∀ a ∈ all, a.stops files folder = false) → carriedOut files folder all = all ∧
    o.ending = match ((BrowserStep.close host) (sessionAfter session all)).1 with
      | .ok () => .code (if all.any (·.failed) then 1 else 0)
      | .error e => .failed e
  stopped : (∃ a ∈ all, a.stops files folder = true) → ∃ e, o.ending = .failed e

/-- All is ready for the first instance of a batch: the folder for the documents is there and the
    browser is open. -/
structure ReadyToPrint (files : Files) (env : Environment) (host : BrowserHost σ) (start : σ)
    (r : RenderRequest) (setup : RenderSetup) (folder : Path) (files' : Files)
    (maker : DocumentMaker) (session : BrowserSession σ) : Prop where
  setUp : setUp files env r = .ok setup
  printed : r.htmlOnly = false
  folder : folderOf files r = .ok (folder, files')
  maker : makerOf files' setup.settings = .ok maker
  opened : (BrowserStep.openBrowser host setup.settings.browser) (.fresh start) = (.ok (), session)

/-- Nothing stops where the batch goes through all attempts. -/
theorem carriedOut_eq_self {files : Files} {folder : Path} {all : List (Attempt σ)}
    (h : ∀ a ∈ all, a.stops files folder = false) : carriedOut files folder all = all := by
  rw [carriedOut, List.takeWhile_eq_self_iff]
  intro a ha
  rw [h a ha]
  rfl

/-- None of some instances has failed where none of them is counted. -/
theorem countP_beq_zero (all : List (Attempt σ)) :
    (all.countP (·.failed) == 0) = !all.any (·.failed) := by
  rw [Bool.eq_iff_iff, beq_iff_eq, List.countP_eq_zero, Bool.not_eq_true', List.any_eq_false]

/-- How a batch ends once its browser was asked to close. -/
def endingOf (closed : Except Failure Unit) (b : Batch σ) : Ending :=
  match closed, b.stopped with
  | .error e, _ => .failed e
  | .ok (), some e => .failed e
  | .ok (), none => .code (if b.failures == 0 then 0 else 1)

section

variable {host : BrowserHost σ} {setup : RenderSetup} {maker : DocumentMaker} {files : Files}
  {folder : Path} {start : σ} {session : BrowserSession σ}

/-- With an open browser the command prints the batch and closes the browser. -/
theorem printDocuments_of_opened
    (hopened : (BrowserStep.openBrowser host setup.settings.browser) (.fresh start) =
      (.ok (), session)) {b : Batch σ}
    (hbatch : printAll host (batchRunner host setup maker) folder setup.ids [] { files := files }
      session = b) :
    (printDocuments host setup maker folder { files := files } start).1 =
      ⟨endingOf ((BrowserStep.close host) b.session).1 b, b.lines, b.results.written⟩ := by
  have hrun : (BrowserStep.openBrowser host setup.settings.browser).run.run (.fresh start) =
    (.ok (), session) := hopened
  subst hbatch
  unfold printDocuments
  simp only [hrun]
  rfl

/-- With an open browser the command comes to what its attempts come to. -/
theorem printDocuments_batchLaw
    (hopened : (BrowserStep.openBrowser host setup.settings.browser) (.fresh start) =
      (.ok (), session)) :
    BatchLaw host (batchRunner host setup maker) files folder session setup.ids
      (attempts host (batchRunner host setup maker) folder ⟨files, [], session⟩ setup.ids)
      (printDocuments host setup maker folder { files := files } start).1 := by
  generalize hprint : printAll host (batchRunner host setup maker) folder setup.ids []
    { files := files } session = b
  have hbatch : BatchRun files folder session
      (attempts host (batchRunner host setup maker) folder ⟨files, [], session⟩ setup.ids) [] b :=
    hprint ▸ printAll_batchRun host _ folder [] setup.ids { files := files } session (.refl files)
  rw [printDocuments_of_opened hopened hprint]
  have hbrowser := browser_of_opened hopened
  constructor
  case attempted => exact attempts_ids _
  case lines => exact hbatch.lines
  case written =>
    intro place
    rw [hbatch.written place]
    exact Option.or_none
  case named =>
    intro a ha job pdf hresult
    rw [eq_attempt_of_mem ha] at hresult
    exact printedPath_of_attempt hresult
  case isolated =>
    intro before a later hsplit
    have ha := eq_attempt_of_mem (hsplit ▸ List.mem_append_right before (List.mem_cons_self ..))
    refine ⟨browser_before hbrowser hsplit, fun t ht => ⟨?_, fun hspares => ?_⟩⟩
    · rw [← (attempt_respects batchRunner_respects ht a.id).1, ← ha]
    · -- An attempt reads nothing of what went before but the logos and the session.
      have hkept := logosKept_before hbrowser hsplit hspares
      rw [← attempt_alone hkept batchRunner_respects ht, ← ha]
  case through =>
    intro hall
    have hself := carriedOut_eq_self hall
    obtain ⟨hstopped, hlast⟩ := hbatch.through hall
    refine ⟨hself, ?_⟩
    unfold endingOf
    rw [hstopped, hlast, hbatch.failures, hself]
    rcases ((BrowserStep.close host) (sessionAfter session _)).1 with e | ⟨⟩
    · rfl
    · simp only [countP_beq_zero]
      cases (attempts host (batchRunner host setup maker) folder ⟨files, [], session⟩
        setup.ids).any (·.failed) <;> rfl
  case stopped =>
    intro hstops
    obtain ⟨e, he⟩ := hbatch.stopped hstops
    unfold endingOf
    rw [he]
    rcases ((BrowserStep.close host) b.session).1 with e' | ⟨⟩
    · exact ⟨e', rfl⟩
    · exact ⟨e, rfl⟩

end

/-- A batch of form instances.  Without instances it says so and its code is 1.  Otherwise an
    instance has no say in what becomes of the others unless its document is written where they look
    for logos; only an id that is no number or a document that cannot be written ends the batch
    before its time. -/
theorem batch_isolated_unless_stopped (files : Files) (env : Environment) (host : BrowserHost σ)
    (start : σ) (r : RenderRequest) (setup : RenderSetup) (hsetup : setUp files env r = .ok setup) :
    (setup.ids = [] →
      (renderRequest files env host start r).1 = ⟨.code 1, [noInstances], []⟩) ∧
    ∀ folder files' maker session, setup.ids ≠ [] →
      ReadyToPrint files env host start r setup folder files' maker session →
      BatchLaw host (batchRunner host setup maker) files' folder session setup.ids
        (attempts host (batchRunner host setup maker) folder ⟨files', [], session⟩ setup.ids)
        (renderRequest files env host start r).1 := by
  rw [renderRequest, hsetup]
  constructor
  · intro hnone
    simp only [hnone, List.isEmpty_nil, if_true]
  · intro folder files' maker session hsome hready
    have hids : setup.ids.isEmpty = false := by rwa [List.isEmpty_eq_false_iff]
    simp only [hids, hready.folder, hready.maker, hready.printed, Bool.false_eq_true, if_false]
    exact printDocuments_batchLaw hready.opened

/-! ## Two batches -/

/-- How many instances there are once all is ready for the first of them. -/
def readyCount (files : Files) (env : Environment) (host : BrowserHost σ) (start : σ)
    (r : RenderRequest) : Option Nat :=
  (setUp files env r).toOption.bind fun setup =>
    (folderOf files r).toOption.bind fun place =>
      (makerOf place.2 setup.settings).toOption.bind fun _ =>
        let opened := (BrowserStep.openBrowser host setup.settings.browser) (.fresh start)
        opened.1.toOption.map fun _ => setup.ids.length

/-- Where the instances can be counted all is ready for them. -/
theorem ready_of_readyCount {files : Files} {env : Environment} {host : BrowserHost σ} {start : σ}
    {r : RenderRequest} {count : Nat} (hprinted : r.htmlOnly = false)
    (h : readyCount files env host start r = some count) :
    ∃ setup folder files' maker session, setup.ids.length = count ∧
      ReadyToPrint files env host start r setup folder files' maker session := by
  obtain ⟨setup, hsetup, h⟩ := Option.bind_eq_some_iff.mp h
  obtain ⟨⟨folder, files'⟩, hfolder, h⟩ := Option.bind_eq_some_iff.mp h
  obtain ⟨maker, hmaker, h⟩ := Option.bind_eq_some_iff.mp h
  obtain ⟨⟨⟩, hopened, hcount⟩ := Option.map_eq_some_iff.mp h
  rw [toOption_eq_some_iff] at hsetup hfolder hmaker hopened
  exact ⟨setup, folder, files', maker, _, hcount, hsetup, hprinted, hfolder, hmaker,
    Prod.ext hopened rfl⟩

/-- A file with two form instances, the first of which has no number. -/
def oddInstances : Files :=
  ⟨⟨1, []⟩, [(["forms.json"], .ofText (
    "\x7b\"instances\": [\x7b\"id\": \"abc\"\x7d, \x7b\"id\": 3, \"form_id\": 1\x7d], " ++
    "\"forms\": [\x7b\"id\": 1\x7d]\x7d"))]⟩

/-- What asks for the instances of a file. -/
def renderFile : RenderRequest := { source := some "forms.json" }

/-- What asks for two instances, one of which is not in the file. -/
def renderListed : RenderRequest := { renderFile with instances := [.int 7, .int 3] }

/-- A host that refuses nothing. -/
def willing : BrowserHost Unit := BrowserStep.refusing fun _ => none

/-- A whole run over the file, which ends at once, and one over two listed instances. -/
theorem oddInstances_lines :
    (readyCount oddInstances [] willing () renderFile = some 2 ∧
      (renderRequest oddInstances [] willing () renderFile).1.lines.length = 0) ∧
    readyCount oddInstances [] willing () renderListed = some 2 ∧
      (renderRequest oddInstances [] willing () renderListed).1.lines =
        ["7: ERROR 表单实例不存在: 7", "3: pages=2 -> output/form-3.pdf"] := by
  -- Both runs are evaluated at once, as they set up the same things.
  decide +kernel

/-- An instance that is not in the file fails without the other one. -/
theorem unknown_instance_isolated :
    let o := (renderRequest oddInstances [] willing () renderListed).1
    o.lines = ["7: ERROR 表单实例不存在: 7", "3: pages=2 -> output/form-3.pdf"] ∧
      ∃ setup folder files maker session,
        ReadyToPrint oddInstances [] willing () renderListed setup folder files maker session ∧
        BatchLaw willing (batchRunner willing setup maker) files folder session setup.ids
          (attempts willing (batchRunner willing setup maker) folder ⟨files, [], session⟩
            setup.ids) o := by
  intro o
  obtain ⟨-, hcount, hlines⟩ := oddInstances_lines
  obtain ⟨setup, folder, files, maker, session, hlength, hready⟩ := ready_of_readyCount rfl hcount
  have hsome : setup.ids ≠ [] := by
    intro hnone
    rw [hnone] at hlength
    cases hlength
  exact ⟨hlines, setup, folder, files, maker, session, hready,
    (batch_isolated_unless_stopped oddInstances [] willing () renderListed setup hready.setUp).2
      folder files maker session hsome hready⟩

/-- A folder for documents, in which there is a closed one. -/
def closedInside : Files :=
  ⟨⟨1, []⟩, [(["output"], .folder), (["output", "sealed"], .closed "denied")]⟩

/-- Settings that look for the crest among the documents first and then in the closed folder. -/
def crestAmongDocuments : Settings :=
  { assets := { folder := .ofText "output", crestNames := ["form-1.pdf", "sealed/logo.png"] } }

/-- Two form instances, of which the first has a crest of its own. -/
def crestedFirst : FormTables where
  instances := [.object [(.text "id", .int 1), (.text "form_id", .int 1)],
    .object [(.text "id", .int 2), (.text "form_id", .int 2)]]
  forms := [.object [(.text "id", .int 1), (.text "header_asset_url", .text "x")],
    .object [(.text "id", .int 2)]]
  steps := []
  sections := []
  questions := []
  options := []
  rows := []
  answers := []

/-- What is printed about some of the two instances. -/
def crestedLines (ids : List Value) : List String :=
  (printDocuments willing ⟨crestAmongDocuments, crestedFirst, ids⟩
    ⟨.standard, crestAmongDocuments, closedInside⟩ (.ofText "output") { files := closedInside }
    ()).1.lines

/-- A printed document is taken for a logo by an instance after it, which fails on its own. -/
theorem printed_document_is_logo :
    crestedLines [.int 1, .int 2] =
      ["1: pages=2 -> output/form-1.pdf", "2: pages=2 -> output/form-2.pdf"] ∧
    crestedLines [.int 2] = ["2: ERROR denied"] := by
  decide +kernel

/-- Not every instance of a batch has its line: an id that is no number ends the batch. -/
theorem odd_id_ends_batch :
    ¬ ∀ (files : Files) (env : Environment) (host : BrowserHost Unit) (r : RenderRequest)
      (setup : RenderSetup) (folder : Path) (files' : Files) (maker : DocumentMaker)
      (session : BrowserSession Unit),
      ReadyToPrint files env host () r setup folder files' maker session →
      (renderRequest files env host () r).1.lines.length = setup.ids.length := by
  intro hall
  obtain ⟨⟨hcount, hnone⟩, -⟩ := oddInstances_lines
  obtain ⟨setup, folder, files, maker, session, hlength, hready⟩ := ready_of_readyCount rfl hcount
  have hlines := hall oddInstances [] willing renderFile setup folder files maker session hready
  rw [hnone, hlength] at hlines
  cases hlines

end FormPress.Command
