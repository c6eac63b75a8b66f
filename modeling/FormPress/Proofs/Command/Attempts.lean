/-
  FormPress.Proofs.Command.Attempts

  Printing a batch of form instances as one attempt after the other (`attempts`).
  Each finds the files, the loaded logos and the session as the one before it has
  left them.  An instance that fails in its run is reported and leaves the files
  alone; one whose id is no number, or whose document cannot be written, ends the
  batch (`Attempt.stops`).  What a batch does with its next instance
  (`printAll_next`) tells what it leaves of all of them (`printAll_batchRun`).

  Documents that are written can be in the way of later instances only where logos
  are looked for.  As long as none is (`Attempt.SparesLogos`), an attempt comes out
  as on its own (`attempt_alone`).
-/
import FormPress.Command.Render
import FormPress.Proofs.Files.Writing
import FormPress.Proofs.Job.Independence

namespace FormPress.Command

/-! ## Printed documents -/

namespace Results

variable {r : Results} {path : Path} (pdf : Pdf) (bytes : ByteArray)

/-- A printed document is written at its target. -/
theorem putPrinted_of_target {place : Place} (h : r.files.target? path = some place) :
    r.putPrinted path pdf bytes =
      (⟨r.files.set place (.file bytes), Table.put place (.pdf pdf) r.written⟩, none) := by
  have hlocate := (Files.target?_eq_some.mp h).1
  simp only [putPrinted, hlocate, Files.write_of_target h]

/-- A printed document without a target is not written. -/
theorem putPrinted_refused (h : r.files.target? path = none) :
    ∃ fault, r.putPrinted path pdf bytes = (r, some (.file path fault)) := by
  obtain ⟨fault, hfault⟩ := Files.write_of_no_target h (.file bytes)
  rcases hlocate : r.files.locate path with fault' | place
  · exact ⟨fault, by simp only [putPrinted, hlocate, hfault]⟩
  · exact ⟨fault, by simp only [putPrinted, hlocate, hfault]⟩

end Results

variable {σ : Type}

/-! ## Attempts -/

/-- What an instance of a batch finds: the files as they are by then, the logos loaded so far, and
    the session. -/
structure Turn (σ : Type) where
  files : Files
  shelf : Shelf
  session : BrowserSession σ

/-- What came of one instance: the job and its document, or why there is none, and what was found
    before and left after it. -/
structure Attempt (σ : Type) where
  id : Value
  result : Except Failure (RenderJob × Pdf)
  before : Turn σ
  after : Turn σ

/-- The files with a document in them, if it can be written. -/
def withDocument (files : Files) (path : Path) (bytes : ByteArray) : Files :=
  match files.target? path with
  | some place => files.set place (.file bytes)
  | none => files

/-- What came of an instance by its run. -/
def Attempt.ofRun (host : BrowserHost σ) (folder : Path) (turn : Turn σ) (id : Value) :
    Except Failure Pdf × JobRun (BrowserSession σ) → Attempt σ
  | (.ok pdf, run) =>
    let bytes := host.saved run.surroundings.host pdf
    ⟨id, .ok (run.job, pdf), turn,
      ⟨withDocument turn.files (printedPath folder run.job) bytes, run.shelf, run.surroundings⟩⟩
  | (.error e, run) => ⟨id, .error e, turn, ⟨turn.files, run.shelf, run.surroundings⟩⟩

/-- Prints one instance with what it finds. -/
def attempt (host : BrowserHost σ) (runner : JobRunner (BrowserSession σ)) (folder : Path)
    (turn : Turn σ) (id : Value) : Attempt σ :=
  match jobOf id with
  | .error e => ⟨id, .error e, turn, turn⟩
  | .ok job =>
    .ofRun host folder turn id ((runner.seeing turn.files).run job turn.shelf turn.session)

/-- Prints some instances, each with what the one before it has left. -/
def attempts (host : BrowserHost σ) (runner : JobRunner (BrowserSession σ)) (folder : Path) :
    Turn σ → List Value → List (Attempt σ)
  | _, [] => []
  | turn, id :: rest =>
    let a := attempt host runner folder turn id
    a :: attempts host runner folder a.after rest

/-- The session that some attempts leave. -/
def sessionAfter (session : BrowserSession σ) (as : List (Attempt σ)) : BrowserSession σ :=
  as.foldl (fun _ a => a.after.session) session

namespace Attempt

variable (files : Files) (folder : Path) (a : Attempt σ)

/-- Whether there is no document. -/
def failed : Bool :=
  match a.result with
  | .ok _ => false
  | .error _ => true

/-- The line about the instance. -/
def line : String :=
  match a.result with
  | .ok (job, _) => printedLine a.id job (printedPath folder job)
  | .error e => failedLine a.id e

/-- The document if it is the one of this place. -/
def fileAt (place : Place) : Option Written :=
  match a.result with
  | .ok (job, pdf) =>
    if files.target? (printedPath folder job) = some place then some (.pdf pdf) else none
  | .error _ => none

/-- Whether the batch ends here: the id is no number, or there is a document that cannot be
    written. -/
def stops : Bool :=
  match jobOf a.id, a.result with
  | .error _, _ => true
  | .ok _, .ok (job, _) => (files.target? (printedPath folder job)).isNone
  | .ok _, .error _ => false

/-- No document is written where a logo is looked for. -/
def SparesLogos (assets : AssetSettings) : Prop :=
  ∀ place, (a.fileAt files folder place).isSome →
    ∀ path ∈ assets.logoPaths, files.locate path ≠ .ok place

end Attempt

/-- The attempts before the one with which the batch ends. -/
def carriedOut (files : Files) (folder : Path) (as : List (Attempt σ)) : List (Attempt σ) :=
  as.takeWhile fun a => !a.stops files folder

section

variable {host : BrowserHost σ} {runner : JobRunner (BrowserSession σ)} {folder : Path}
  {turn : Turn σ} {id : Value}

/-- An id that makes no job comes to nothing. -/
theorem attempt_of_bad_id {e : Failure} (h : jobOf id = .error e) :
    attempt host runner folder turn id = ⟨id, .error e, turn, turn⟩ := by
  unfold attempt
  rw [h]

/-- An id that makes a job comes to what its run does. -/
theorem attempt_of_job {job : RenderJob} (h : jobOf id = .ok job) :
    attempt host runner folder turn id = .ofRun host folder turn id
      ((runner.seeing turn.files).run job turn.shelf turn.session) := by
  unfold attempt
  rw [h]

namespace Attempt

variable (p : Except Failure Pdf × JobRun (BrowserSession σ))

theorem ofRun_result :
    (ofRun host folder turn id p).result = p.1.map fun pdf => (p.2.job, pdf) := by
  rcases p with ⟨e | pdf, run⟩ <;> rfl

theorem ofRun_shelf : (ofRun host folder turn id p).after.shelf = p.2.shelf := by
  rcases p with ⟨e | pdf, run⟩ <;> rfl

theorem ofRun_session : (ofRun host folder turn id p).after.session = p.2.surroundings := by
  rcases p with ⟨e | pdf, run⟩ <;> rfl

theorem ofRun_id : (ofRun host folder turn id p).id = id := by
  rcases p with ⟨e | pdf, run⟩ <;> rfl

theorem ofRun_before : (ofRun host folder turn id p).before = turn := by
  rcases p with ⟨e | pdf, run⟩ <;> rfl

/-- An id that makes no job stops a batch. -/
theorem stops_of_bad_id {files : Files} {a : Attempt σ} {e : Failure}
    (h : jobOf a.id = .error e) : a.stops files folder = true := by
  unfold stops
  rw [h]

/-- An attempt at an instance that has a job stops a batch if its document cannot be written. -/
theorem stops_of_job {files : Files} {a : Attempt σ} {job : RenderJob}
    (h : jobOf a.id = .ok job) :
    a.stops files folder = match a.result with
      | .ok (job, _) => (files.target? (printedPath folder job)).isNone
      | .error _ => false := by
  unfold stops
  rw [h]
  rcases a.result with e | ⟨job, pdf⟩ <;> rfl

end Attempt

/-- An attempt is at its instance. -/
theorem attempt_id : (attempt host runner folder turn id).id = id := by
  unfold attempt
  cases jobOf id with
  | error e => rfl
  | ok job => exact Attempt.ofRun_id _

/-- An attempt finds what it is given. -/
theorem attempt_before : (attempt host runner folder turn id).before = turn := by
  unfold attempt
  cases jobOf id with
  | error e => rfl
  | ok job => exact Attempt.ofRun_before _

/-- Every instance has its turn, in order. -/
theorem attempts_ids (ids : List Value) :
    (attempts host runner folder turn ids).map (·.id) = ids := by
  induction ids generalizing turn with
  | nil => rfl
  | cons id rest ih => rw [attempts, List.map_cons, ih, attempt_id]

/-- Every attempt is that of its instance with what it finds. -/
theorem eq_attempt_of_mem {ids : List Value} {a : Attempt σ}
    (ha : a ∈ attempts host runner folder turn ids) :
    a = attempt host runner folder a.before a.id := by
  -- Each attempt starts a batch of those behind it.
  induction ids generalizing turn with
  | nil => cases ha
  | cons id rest ih =>
      rcases List.mem_cons.mp ha with rfl | ha
      · rw [attempt_before, attempt_id]
      · exact ih ha

/-- What holds at first and is kept by the attempts in front of one of them holds before it. -/
theorem before_of_kept (good : Turn σ → Prop) (keeps : Attempt σ → Prop)
    (h : ∀ turn id, good turn → keeps (attempt host runner folder turn id) →
      good (attempt host runner folder turn id).after) (hgood : good turn) {ids : List Value}
    {a : Attempt σ} {front later : List (Attempt σ)}
    (hsplit : attempts host runner folder turn ids = front ++ a :: later)
    (hfront : ∀ b ∈ front, keeps b) : good a.before := by
  induction ids generalizing turn front with
  | nil => cases front <;> cases hsplit
  | cons id rest ih =>
      cases front with
      | nil =>
          obtain ⟨rfl, -⟩ := List.cons.inj hsplit
          rw [attempt_before]
          exact hgood
      | cons b front =>
          obtain ⟨rfl, hrest⟩ := List.cons.inj hsplit
          have hb := hfront _ (List.mem_cons_self ..)
          exact ih (h _ _ hgood hb) hrest fun b' hb' => hfront b' (List.mem_cons_of_mem _ hb')

/-! ## What an attempt depends on -/

/-- With the same files and the same logos loaded, an attempt comes out the same in sessions that are
    alike. -/
theorem attempt_respects {alike : BrowserSession σ → BrowserSession σ → Prop}
    (h : runner.RespectsSurroundings alike) {t : BrowserSession σ} (hst : alike turn.session t)
    (id : Value) :
    (attempt host runner folder turn id).result =
        (attempt host runner folder { turn with session := t } id).result ∧
      alike (attempt host runner folder turn id).after.session
        (attempt host runner folder { turn with session := t } id).after.session := by
  rcases hjob : jobOf id with e | job
  · rw [attempt_of_bad_id hjob, attempt_of_bad_id hjob]
    exact ⟨rfl, hst⟩
  · obtain ⟨hresult, hmatch⟩ := JobRunner.run_matches (Shelf.indistinct_eq turn.files)
      (h.seeing turn.files) job (rfl : turn.shelf = turn.shelf) hst
    rw [attempt_of_job hjob, attempt_of_job hjob]
    simp only [Attempt.ofRun_result, Attempt.ofRun_session, hresult, hmatch.job]
    exact ⟨trivial, hmatch.surroundings⟩

/-- Since some state of the files nothing has been written where logos are looked for, and what is
    loaded are the logos as they were then. -/
structure Turn.LogosKept (files : Files) (assets : AssetSettings) (turn : Turn σ) : Prop where
  ground : Files.SameGround files turn.files
  agree : Files.AgreeOn assets.logoPaths files turn.files
  faithful : turn.shelf.Faithful files

namespace Turn.LogosKept

variable {files : Files} {alike : BrowserSession σ → BrowserSession σ → Prop}

/-- A run that finds the logos as they were comes out as with the files of that time, and leaves the
    logos as they were. -/
theorem run (h : turn.LogosKept files runner.maker.settings.assets)
    (hrespects : runner.RespectsSurroundings alike) {t : BrowserSession σ}
    (hst : alike turn.session t) (job : RenderJob) :
    ((runner.seeing turn.files).run job turn.shelf turn.session).1 =
        ((runner.seeing files).run job [] t).1 ∧
      ((runner.seeing turn.files).run job turn.shelf turn.session).2.job =
        ((runner.seeing files).run job [] t).2.job ∧
      ((runner.seeing turn.files).run job turn.shelf turn.session).2.shelf.Faithful files := by
  have hrun : (runner.seeing turn.files).run = (runner.seeing files).run :=
    @JobRunner.run_seeing _ (runner.seeing files) turn.files h.agree
  obtain ⟨hresult, hmatch⟩ := JobRunner.run_matches (Shelf.indistinct_faithful files)
    (hrespects.seeing files) job ⟨h.faithful, Shelf.Faithful.empty files⟩ hst
  rw [hrun]
  exact ⟨hresult, hmatch.job, hmatch.shelf.1⟩

end Turn.LogosKept

/-- An attempt that finds the logos as they were comes out as if it were the first, in all sessions
    that are alike. -/
theorem attempt_alone {files : Files} {alike : BrowserSession σ → BrowserSession σ → Prop}
    (hkept : turn.LogosKept files runner.maker.settings.assets)
    (hrespects : runner.RespectsSurroundings alike) {t : BrowserSession σ}
    (hst : alike turn.session t) :
    (attempt host runner folder turn id).result =
      (attempt host runner folder ⟨files, [], t⟩ id).result := by
  rcases hjob : jobOf id with e | job
  · rw [attempt_of_bad_id hjob, attempt_of_bad_id hjob]
  · obtain ⟨hresult, hsame, -⟩ := hkept.run hrespects hst job
    rw [attempt_of_job hjob, attempt_of_job hjob, Attempt.ofRun_result, Attempt.ofRun_result,
      hresult, hsame]

/-- The files after an attempt are those before it, or have its document in them. -/
theorem attempt_files {files : Files} (hground : Files.SameGround files turn.files) :
    (attempt host runner folder turn id).after.files = turn.files ∨
      ∃ place bytes, ((attempt host runner folder turn id).fileAt files folder place).isSome ∧
        turn.files.ground place = none ∧
        (attempt host runner folder turn id).after.files = turn.files.set place (.file bytes) := by
  rcases hjob : jobOf id with e | job
  · rw [attempt_of_bad_id hjob]
    exact .inl rfl
  rw [attempt_of_job hjob]
  rcases (runner.seeing turn.files).run job turn.shelf turn.session with ⟨e | pdf, run⟩
  · exact .inl rfl
  simp only [Attempt.ofRun, withDocument]
  cases htarget : turn.files.target? (printedPath folder run.job) with
  | none => exact .inl rfl
  | some place =>
      refine .inr ⟨place, host.saved run.surroundings.host pdf, ?_,
        (Files.target?_eq_some.mp htarget).2, rfl⟩
      have hplace := (hground.target? _).trans htarget
      simp only [Attempt.fileAt, hplace, if_true, Option.isSome_some]

/-- An attempt leaves the ground as it is. -/
theorem ground_after {files : Files} (hground : Files.SameGround files turn.files) :
    Files.SameGround files (attempt host runner folder turn id).after.files := by
  rcases attempt_files hground with hfiles | ⟨place, bytes, -, hfree, hfiles⟩
  · rw [hfiles]
    exact hground
  · rw [hfiles]
    exact hground.trans (Files.sameGround_set hfree rfl)

/-- An attempt whose document is no logo leaves all logos as they were. -/
theorem logosKept_after {files : Files} {alike : BrowserSession σ → BrowserSession σ → Prop}
    (hrespects : runner.RespectsSurroundings alike) (hrefl : alike turn.session turn.session)
    (hkept : turn.LogosKept files runner.maker.settings.assets)
    (hspares : (attempt host runner folder turn id).SparesLogos files folder
      runner.maker.settings.assets) :
    (attempt host runner folder turn id).after.LogosKept files runner.maker.settings.assets := by
  refine ⟨ground_after hkept.ground, ?_, ?_⟩
  · -- Either nothing is written, or a document where no logo is looked for.
    rcases attempt_files hkept.ground with hfiles | ⟨place, bytes, hwritten, hfree, hfiles⟩
    · rw [hfiles]
      exact hkept.agree
    · rw [hfiles]
      refine hkept.agree.trans (.set hfree rfl fun path hpath hlocate => ?_)
      -- The path leads to the same place as at first, where no document of this one is.
      have hreach := Files.reach_eq_some.mpr hlocate
      rw [← hkept.ground.reach] at hreach
      exact hspares place hwritten path hpath (Files.reach_eq_some.mp hreach)
  · rcases hjob : jobOf id with e | job
    · rw [attempt_of_bad_id hjob]
      exact hkept.faithful
    · rw [attempt_of_job hjob, Attempt.ofRun_shelf]
      exact (hkept.run hrespects hrefl job).2.2

end

/-! ## One instance of a batch -/

section

variable (host : BrowserHost σ) (runner : JobRunner (BrowserSession σ)) (folder : Path) {id : Value}
  {shelf : Shelf} {results : Results} (rest : List Value) (session : BrowserSession σ)

/-- A batch ends with an id that makes no job. -/
theorem printAll_of_bad_id {e : Failure} (h : jobOf id = .error e) :
    printAll host runner folder (id :: rest) shelf results session =
      ⟨[], results, 0, session, some e⟩ := by
  change (match jobOf id with
    | .error e => (⟨[], results, 0, session, some e⟩ : Batch σ)
    | .ok _ => _) = _
  rw [h]

/-- With a job that runs a batch goes on, unless its document cannot be written. -/
theorem printAll_of_job {job : RenderJob} (h : jobOf id = .ok job) :
    printAll host runner folder (id :: rest) shelf results session =
      match (runner.seeing results.files).run job shelf session with
      | (.ok pdf, run) =>
        match results.putPrinted (printedPath folder run.job) pdf
            (host.saved run.surroundings.host pdf) with
        | (results, some e) => ⟨[], results, 0, run.surroundings, some e⟩
        | (results, none) =>
          (printAll host runner folder rest run.shelf results run.surroundings).report
            (printedLine id run.job (printedPath folder run.job)) 0
      | (.error e, run) =>
        (printAll host runner folder rest run.shelf results run.surroundings).report
          (failedLine id e) 1 := by
  change (match jobOf id with
    | .error _ => (_ : Batch σ)
    | .ok job => _) = _
  rw [h]
  dsimp only
  rcases (runner.seeing results.files).run job shelf session with ⟨e | pdf, run⟩
  · rfl
  · rfl

end

/-- What a batch does with its next instance: it ends with it, or it goes on from it with its line,
    its document and what it has left. -/
inductive Next (host : BrowserHost σ) (runner : JobRunner (BrowserSession σ)) (folder : Path)
    (files : Files) (rest : List Value) (results : Results) (a : Attempt σ) : Batch σ → Prop
  | ended (h : a.stops files folder = true) (e : Failure) :
      Next host runner folder files rest results a ⟨[], results, 0, a.after.session, some e⟩
  | goesOn (results' : Results) (h : a.stops files folder = false)
      (hfiles : results'.files = a.after.files)
      (hwritten : ∀ place, Table.get? results'.written place =
        (a.fileAt files folder place).or (Table.get? results.written place)) :
      Next host runner folder files rest results a
        ((printAll host runner folder rest a.after.shelf results' a.after.session).report
          (a.line folder) (if a.failed then 1 else 0))

/-- A batch ends with its next instance or goes on from it. -/
theorem printAll_next (host : BrowserHost σ) (runner : JobRunner (BrowserSession σ)) (folder : Path)
    {files : Files} {shelf : Shelf} {results : Results} {id : Value} (rest : List Value)
    {session : BrowserSession σ} {a : Attempt σ}
    (ha : attempt host runner folder ⟨results.files, shelf, session⟩ id = a)
    (hground : Files.SameGround files results.files) :
    Next host runner folder files rest results a
      (printAll host runner folder (id :: rest) shelf results session) := by
  have hid : a.id = id := ha ▸ attempt_id
  -- The batch looks at the id first, then at the run, and last at the target of the document.
  rcases hjob : jobOf id with e | job
  · have hbad : jobOf a.id = .error e := by rw [hid, hjob]
    have hafter : a.after.session = session := by rw [← ha, attempt_of_bad_id hjob]
    rw [printAll_of_bad_id host runner folder rest session hjob, ← hafter]
    exact .ended (Attempt.stops_of_bad_id hbad) e
  have hjob' : jobOf a.id = .ok job := by rw [hid, hjob]
  rw [attempt_of_job hjob] at ha
  rw [printAll_of_job host runner folder rest session hjob]
  rcases hrun : (runner.seeing results.files).run job shelf session with ⟨e | pdf, run⟩
  · simp only [hrun] at ha
    subst ha
    refine .goesOn results ?_ rfl fun _ => rfl
    rw [Attempt.stops_of_job hjob']
    rfl
  · simp only [hrun] at ha
    subst ha
    cases htarget : results.files.target? (printedPath folder run.job) with
    | none =>
        obtain ⟨fault, hput⟩ := Results.putPrinted_refused pdf
          (host.saved run.surroundings.host pdf) htarget
        simp only [hput]
        refine .ended ?_ _
        rw [Attempt.stops_of_job hjob']
        exact Option.isNone_iff_eq_none.mpr ((hground.target? _).trans htarget)
    | some place =>
        have hplace := (hground.target? _).trans htarget
        simp only [Results.putPrinted_of_target pdf (host.saved run.surroundings.host pdf) htarget]
        refine .goesOn _ ?_ ?_ fun place' => ?_
        · rw [Attempt.stops_of_job hjob']
          exact Option.isNone_eq_false_iff.mpr (hplace ▸ rfl)
        · simp only [Attempt.ofRun, withDocument, htarget]
        · simp only [Attempt.ofRun, Attempt.fileAt, hplace, Option.some.injEq, Table.get?_put]
          split <;> rfl

/-! ## Whole batches -/

/-- What a batch leaves of the attempts at its instances, where some files are written already. -/
structure BatchRun (files : Files) (folder : Path) (session : BrowserSession σ)
    (all : List (Attempt σ)) (before : Table Place Written) (b : Batch σ) : Prop where
  lines : b.lines = (carriedOut files folder all).map (·.line folder)
  failures : b.failures = (carriedOut files folder all).countP (·.failed)
  written : ∀ place, Table.get? b.results.written place =
    ((carriedOut files folder all).reverse.findSome? (·.fileAt files folder place)).or
      (Table.get? before place)
  through : (∀ a ∈ all, a.stops files folder = false) →
    b.stopped = none ∧ b.session = sessionAfter session all
  stopped : (∃ a ∈ all, a.stops files folder = true) → ∃ e, b.stopped = some e

namespace BatchRun

variable {files : Files} {folder : Path} {session : BrowserSession σ} {a : Attempt σ}
  {later : List (Attempt σ)} {results : Results}

/-- Without instances a batch leaves everything as it is. -/
theorem nil : BatchRun files folder session [] results.written ⟨[], results, 0, session, none⟩ where
  lines := rfl
  failures := rfl
  written _ := rfl
  through _ := ⟨rfl, rfl⟩
  stopped h := by
    obtain ⟨a, ha, -⟩ := h
    cases ha

/-- A batch that ends with its next instance. -/
theorem ended (ha : a.stops files folder = true) (e : Failure) :
    BatchRun files folder session (a :: later) results.written
      ⟨[], results, 0, a.after.session, some e⟩ := by
  have hnone : carriedOut files folder (a :: later) = [] := by
    rw [carriedOut, List.takeWhile_cons, ha]
    rfl
  constructor
  case lines => rw [hnone]; rfl
  case failures => rw [hnone]; rfl
  case written => intro place; rw [hnone]; rfl
  case through =>
    intro h
    rw [h a (List.mem_cons_self ..)] at ha
    cases ha
  case stopped => exact fun _ => ⟨e, rfl⟩

/-- A batch that goes on from its next instance. -/
theorem report {written : Table Place Written} {b : Batch σ} (ha : a.stops files folder = false)
    (hwritten : ∀ place, Table.get? written place =
      (a.fileAt files folder place).or (Table.get? results.written place))
    (h : BatchRun files folder a.after.session later written b) :
    BatchRun files folder session (a :: later) results.written
      (b.report (a.line folder) (if a.failed then 1 else 0)) := by
  have hcons : carriedOut files folder (a :: later) = a :: carriedOut files folder later := by
    rw [carriedOut, List.takeWhile_cons, ha]
    rfl
  constructor
  case lines => rw [hcons, List.map_cons, ← h.lines]; rfl
  case failures => rw [hcons, List.countP_cons, ← h.failures, Nat.add_comm]; rfl
  case written =>
    intro place
    -- What comes later replaces what stands at a place, so the search goes backwards.
    rw [hcons, List.reverse_cons, List.findSome?_append, List.findSome?_cons, Option.or_assoc]
    have hrest := h.written place
    rw [hwritten place] at hrest
    rw [Batch.report, hrest]
    cases a.fileAt files folder place <;> rfl
  case through =>
    intro hall
    exact h.through fun a' ha' => hall a' (List.mem_cons_of_mem _ ha')
  case stopped =>
    rintro ⟨a', ha', hstops⟩
    rcases List.mem_cons.mp ha' with rfl | ha'
    · rw [ha] at hstops
      cases hstops
    · exact h.stopped ⟨a', ha', hstops⟩

end BatchRun

/-- A batch comes to what the attempts at its instances come to, up to the one with which it
    ends. -/
theorem printAll_batchRun (host : BrowserHost σ) (runner : JobRunner (BrowserSession σ))
    (folder : Path) {files : Files} (shelf : Shelf) (ids : List Value) (results : Results)
    (session : BrowserSession σ) (hground : Files.SameGround files results.files) :
    BatchRun files folder session
      (attempts host runner folder ⟨results.files, shelf, session⟩ ids) results.written
      (printAll host runner folder ids shelf results session) := by
  induction ids generalizing shelf results session with
  | nil => exact .nil
  | cons id rest ih =>
      rw [attempts]
      -- The induction is over the attempts, each of which starts with what the one before has left.
      generalize ha : attempt host runner folder ⟨results.files, shelf, session⟩ id = a
      have hafter : Files.SameGround files a.after.files := ha ▸ ground_after hground
      have hnext := printAll_next host runner folder rest ha hground
      generalize printAll host runner folder (id :: rest) shelf results session = b at hnext ⊢
      cases hnext with
      | ended hstops e => exact .ended hstops e
      | goesOn results' hgoes hfiles hwritten =>
          have hrest := ih a.after.shelf results' a.after.session (hfiles ▸ hafter)
          rw [hfiles] at hrest
          exact .report hgoes hwritten hrest

end FormPress.Command
