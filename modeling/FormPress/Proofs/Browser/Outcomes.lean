/-
  FormPress.Proofs.Browser.Outcomes

  The ways in which the steps of a session come out.  Closing (`Closing`), opening
  (`Opening`) and printing a pass (`Rendering`) each have a relation that lists
  them, with the events, the notes, the result and what is held afterwards.  What
  is proved of sessions elsewhere is read off these relations and does not open the
  steps again.
-/
import FormPress.Proofs.Browser.Events

namespace FormPress

variable {σ : Type}

/-! ## Closing -/

/-- Letting go of what may be held takes a call, and keeps it where the call fails. -/
inductive LetsGo (c : BrowserCall) : Bool → List BrowserEvent → Except Failure Unit → Bool → Prop
  | idle : LetsGo c false [] (.ok ()) false
  | gone : LetsGo c true [⟨c, none⟩] (.ok ()) false
  | stuck (reason : String) :
      LetsGo c true [⟨c, some reason⟩] (.error (.outside reason)) true

/-- How closing comes out: a browser that cannot be closed ends it, and the driver is let go only
    once no browser is held. -/
inductive Closing (held : Held) : StepOutcome Unit → Prop
  | browserStuck {es : List BrowserEvent} {e : Failure} {browser : Bool}
      (h : LetsGo .closeBrowser held.browser es (.error e) browser) :
      Closing held ⟨es, [], .error e, ⟨held.driver, browser⟩⟩
  | browserGone {es es' : List BrowserEvent} {result : Except Failure Unit} {driver browser : Bool}
      (h : LetsGo .closeBrowser held.browser es (.ok ()) browser)
      (h' : LetsGo .stop held.driver es' result driver) :
      Closing held ⟨es ++ es', [], result, ⟨driver, browser⟩⟩

namespace BrowserStep

variable (host : BrowserHost σ) {s : BrowserSession σ}

/-- The second half of closing. -/
theorem letDriverGo_runs {driver browser : Bool} (hs : s.held = ⟨driver, browser⟩) :
    ∃ es result driver', LetsGo .stop driver es result driver' ∧
      Runs host (do if (← get).driver then call host .stop; holdDriver false) s
        ⟨es, [], result, ⟨driver', browser⟩⟩ := by
  have hdriver : s.driver = driver := congrArg Held.driver hs
  cases driver with
  | false =>
      refine ⟨_, _, _, .idle, Runs.get_bind ?_⟩
      rw [if_neg (by rw [hdriver]; decide)]
      exact .pure () hs
  | true =>
      obtain ⟨_ | reason, hcall⟩ := call_runs host .stop hs
      · refine ⟨_, _, _, .gone, Runs.get_bind ?_⟩
        rw [if_pos hdriver]
        exact hcall.andThen (holdDriver_runs host false hcall.held)
      · refine ⟨_, _, _, .stuck reason, Runs.get_bind ?_⟩
        rw [if_pos hdriver]
        exact hcall.bind_error

/-- Closing comes out in one of the ways of closing. -/
theorem close_runs {h : Held} (hs : s.held = h) :
    ∃ o, Closing h o ∧ Runs host (close host) s o := by
  obtain ⟨driver, browser⟩ := h
  have hbrowser : s.browser = browser := congrArg Held.browser hs
  cases browser with
  | false =>
      -- Without a browser closing is about the driver from the start.
      obtain ⟨es, result, driver', hstop, hrun⟩ := letDriverGo_runs host hs
      refine ⟨_, .browserGone .idle hstop, Runs.get_bind ?_⟩
      rw [if_neg (by rw [hbrowser]; decide)]
      exact hrun
  | true =>
      -- reason, hcall⟩ := call_runs host .closeBrowser | The driver is looked at only once the
      -- browser is gone.
      obtain ⟨_ | reason, hcall⟩ := call_runs host .closeBrowser hs
      · have hhold := holdBrowser_runs host false hcall.held
        obtain ⟨es, result, driver', hstop, hrun⟩ := letDriverGo_runs host hhold.held
        refine ⟨_, .browserGone .gone hstop, Runs.get_bind ?_⟩
        rw [if_pos hbrowser]
        exact hcall.andThen (hhold.andThen hrun)
      · refine ⟨_, .browserStuck (.stuck reason), Runs.get_bind ?_⟩
        rw [if_pos hbrowser]
        exact hcall.bind_error

end BrowserStep

/-! ## Opening -/

/-- How starting a driver and launching a browser fails: the events, the reason, and whether a driver
    is held afterwards. -/
inductive LaunchFails (name : String) (driver : Bool) :
    List BrowserEvent → String → Bool → Prop
  | noDriver (reason : String) : LaunchFails name driver [⟨.start, some reason⟩] reason driver
  | noBrowser (known : knownBrowsers.contains name) (reason : String) :
      LaunchFails name driver [⟨.start, none⟩, ⟨.launch name, some reason⟩] reason true
  | unknown (unknown : ¬ knownBrowsers.contains name) :
      LaunchFails name driver [⟨.start, none⟩] ("no browser " ++ name) true

/-- The failure to start a browser. -/
def startFailure (reason : String) : Failure := .engine (.render (.start reason))

/-- How making sure of a browser comes out. Where none can be had, the driver is let go again. -/
inductive Opening (name : String) : Held → StepOutcome Unit → Prop
  | already (driver : Bool) : Opening name ⟨driver, true⟩ ⟨[], [], .ok (), ⟨driver, true⟩⟩
  | opened (driver : Bool) (known : knownBrowsers.contains name) :
      Opening name ⟨driver, false⟩
        ⟨[⟨.start, none⟩, ⟨.launch name, none⟩], [], .ok (), ⟨true, true⟩⟩
  | failed {driver driver' driver'' : Bool} {es es' : List BrowserEvent} {reason : String}
      {result : Except Failure Unit} (h : LaunchFails name driver es reason driver')
      (h' : LetsGo .stop driver' es' result driver'') :
      Opening name ⟨driver, false⟩
        ⟨es ++ es', [], .error (afterCleanUp (startFailure reason) result), ⟨driver'', false⟩⟩

namespace BrowserStep

variable (host : BrowserHost σ) {s : BrowserSession σ}

/-- Launching succeeds with both held, or fails in one of its ways. -/
theorem launch_runs (name : String) {driver : Bool} (hs : s.held = ⟨driver, false⟩) :
    (knownBrowsers.contains name ∧ Runs host (launch host name) s
      ⟨[⟨.start, none⟩, ⟨.launch name, none⟩], [], .ok (), ⟨true, true⟩⟩) ∨
    ∃ es reason driver', LaunchFails name driver es reason driver' ∧
      Runs host (launch host name) s ⟨es, [], .error (.outside reason), ⟨driver', false⟩⟩ := by
  obtain ⟨_ | reason, hstart⟩ := call_runs host .start hs
  · have hhold := holdDriver_runs host true hstart.held
    -- A driver that was started but does not know the browser is held all the same.
    by_cases known : knownBrowsers.contains name
    · obtain ⟨_ | reason, hlaunch⟩ := call_runs host (.launch name) hhold.held
      · have hheld := holdBrowser_runs host true hlaunch.held
        refine .inl ⟨known, ?_⟩
        rw [launch, if_pos known]
        exact hstart.andThen (hhold.andThen (hlaunch.andThen hheld))
      · refine .inr ⟨_, _, _, .noBrowser known reason, ?_⟩
        rw [launch, if_pos known]
        exact hstart.andThen (hhold.andThen hlaunch.bind_error)
    · refine .inr ⟨_, _, _, .unknown known, ?_⟩
      rw [launch, if_neg known]
      exact hstart.andThen (hhold.andThen (.throw _ hhold.held))
  · exact .inr ⟨_, _, _, .noDriver reason, hstart.bind_error⟩

/-- Making sure of a browser comes out in one of its ways. -/
theorem openBrowser_runs (settings : BrowserSettings) {h : Held} (hs : s.held = h) :
    ∃ o, Opening settings.browser h o ∧ Runs host (openBrowser host settings) s o := by
  obtain ⟨driver, browser⟩ := h
  have hbrowser : s.browser = browser := congrArg Held.browser hs
  cases browser with
  | true =>
      refine ⟨_, .already driver, Runs.get_bind ?_⟩
      rw [if_pos hbrowser]
      exact .pure () hs
  | false =>
      obtain ⟨known, hlaunch⟩ | ⟨es, reason, driver', hfails, hlaunch⟩ :=
        launch_runs host settings.browser hs
      · refine ⟨_, .opened driver known, Runs.get_bind ?_⟩
        rw [if_neg (by rw [hbrowser]; decide)]
        exact hlaunch.tryCatch_ok _
      · -- No browser is held after a failed launch, so closing is about the driver alone.
        obtain ⟨o, hclosing, hclose⟩ := close_runs host hlaunch.held
        obtain ⟨⟨⟩⟩ | ⟨⟨⟩, hstop⟩ := hclosing
        refine ⟨_, .failed hfails hstop, Runs.get_bind ?_⟩
        rw [if_neg (by rw [hbrowser]; decide)]
        refine hlaunch.tryCatch_error ?_
        exact hclose.thenThrow (startFailure reason)

end BrowserStep

/-! ## Printing a pass -/

/-- The note about a tab that cannot be closed. -/
def tabWarning (label reason : String) : LogEntry :=
  .warning ("页面关闭失败 [" ++ label ++ "]: " ++ reason)

/-- The notes on closing a tab, which may fail for a reason. -/
def tabNotes (label : String) (failure : Option String) : List LogEntry :=
  (failure.map (tabWarning label)).toList

/-- The failure of a pass. -/
def passFailure (label reason : String) : Failure := .engine (.render (.pass label reason))

/-- A printed document as a range of pages, if its pages can be counted. -/
def rangeOf (label : String) (pdf : Pdf) : Except Failure PageRange :=
  match pdf.count with
  | .ok count => .ok ⟨label, pdf, count⟩
  | .error e => .error e

/-- What happens in a tab between its creation and its end, and the reason for which it failed. -/
inductive InTab (settings : BrowserSettings) (html : String) (options : PrintOptions) :
    List BrowserEvent → Option String → Prop
  | notLoaded (reason : String) :
      InTab settings html options
        [⟨.load html settings.waitUntil settings.timeoutMs, some reason⟩] (some reason)
  | notPrinted (reason : String) :
      InTab settings html options
        [⟨.load html settings.waitUntil settings.timeoutMs, none⟩, ⟨.print options, some reason⟩]
        (some reason)
  | printed :
      InTab settings html options
        [⟨.load html settings.waitUntil settings.timeoutMs, none⟩, ⟨.print options, none⟩] none

/-- How printing a pass comes out. A tab that was created is closed at the end, which is noted where
    it fails. -/
inductive Rendering (settings : BrowserSettings) (html : String) (options : PrintOptions)
    (held : Held) : StepOutcome PageRange → Prop
  | notOpened {es : List BrowserEvent} {e : Failure} {held' : Held}
      (h : Opening settings.browser held ⟨es, [], .error e, held'⟩) :
      Rendering settings html options held ⟨es, [], .error e, held'⟩
  | noTab {es : List BrowserEvent} {held' : Held}
      (h : Opening settings.browser held ⟨es, [], .ok (), held'⟩) (reason : String) :
      Rendering settings html options held
        ⟨es ++ [⟨.newTab, some reason⟩], [], .error (.outside reason), held'⟩
  | failed {es inTab : List BrowserEvent} {held' : Held} {reason : String}
      (h : Opening settings.browser held ⟨es, [], .ok (), held'⟩)
      (h' : InTab settings html options inTab (some reason)) (failure : Option String) :
      Rendering settings html options held
        ⟨es ++ ⟨.newTab, none⟩ :: (inTab ++ [⟨.closeTab, failure⟩]), tabNotes options.label failure,
          .error (passFailure options.label reason), held'⟩
  | printed {es inTab : List BrowserEvent} {held' : Held}
      (h : Opening settings.browser held ⟨es, [], .ok (), held'⟩)
      (h' : InTab settings html options inTab none) (failure : Option String) (pdf : Pdf) :
      Rendering settings html options held
        ⟨es ++ ⟨.newTab, none⟩ :: (inTab ++ [⟨.closeTab, failure⟩]), tabNotes options.label failure,
          rangeOf options.label pdf, held'⟩

namespace BrowserStep

variable (host : BrowserHost σ) {s : BrowserSession σ}

/-- Closing a tab succeeds, with a note where the call fails. -/
theorem closeTab_runs (label : String) {h : Held} (hs : s.held = h) :
    ∃ failure, Runs host (closeTab host label) s
      ⟨[⟨.closeTab, failure⟩], tabNotes label failure, .ok (), h⟩ := by
  obtain ⟨_ | reason, hcall⟩ := call_runs host .closeTab hs
  · exact ⟨none, hcall.tryCatch_ok _⟩
  · refine ⟨some reason, hcall.tryCatch_error ?_⟩
    exact note_runs host (tabWarning label reason) hcall.held

theorem printed_runs {h : Held} (hs : s.held = h) :
    ∃ pdf, Runs host (do return host.printed (← get).host) s ⟨[], [], .ok pdf, h⟩ :=
  ⟨host.printed s.host, .get_bind (.pure _ hs)⟩

/-- Printing in a tab fails in one of its ways, or gives pages. -/
theorem printTab_runs (settings : BrowserSettings) (html : String) (options : PrintOptions)
    {h : Held} (hs : s.held = h) :
    (∃ es reason, InTab settings html options es (some reason) ∧
      Runs host (printTab host settings html options) s ⟨es, [], .error (.outside reason), h⟩) ∨
    ∃ es pdf, InTab settings html options es none ∧
      Runs host (printTab host settings html options) s ⟨es, [], .ok pdf, h⟩ := by
  obtain ⟨_ | reason, hload⟩ :=
    call_runs host (.load html settings.waitUntil settings.timeoutMs) hs
  · obtain ⟨_ | reason, hprint⟩ := call_runs host (.print options) hload.held
    · obtain ⟨pdf, hpdf⟩ := printed_runs host hprint.held
      exact .inr ⟨_, pdf, .printed, hload.andThen (hprint.andThen hpdf)⟩
    · exact .inl ⟨_, reason, .notPrinted reason, hload.andThen hprint.bind_error⟩
  · exact .inl ⟨_, reason, .notLoaded reason, hload.bind_error⟩

theorem rangeOf_runs (label : String) (pdf : Pdf) {h : Held} (hs : s.held = h) :
    Runs host (do
      let count ← (pdf.count : Except Failure Nat)
      return ⟨label, pdf, count⟩ : BrowserStep σ PageRange) s ⟨[], [], rangeOf label pdf, h⟩ := by
  subst hs
  refine .silent ?_ rfl rfl rfl
  rw [bind_apply, lift_apply, rangeOf]
  cases pdf.count <;> rfl

/-- Printing a pass comes out in one of its ways. -/
theorem renderPass_runs (settings : BrowserSettings) (html : String) (options : PrintOptions)
    {h : Held} (hs : s.held = h) :
    ∃ o, Rendering settings html options h o ∧
      Runs host (renderPass host settings html options) s o := by
  obtain ⟨⟨es, notes, result, held'⟩, hopening, hopen⟩ := openBrowser_runs host settings hs
  have hnotes : notes = [] := by cases hopening <;> rfl
  subst hnotes
  -- Every call may be the one that fails, and each ends the pass in its own way.
  rcases result with e | ⟨⟩
  · exact ⟨_, .notOpened hopening, hopen.bind_error⟩
  obtain ⟨_ | reason, htab⟩ := call_runs host .newTab hopen.held
  · obtain ⟨inTab, reason, hin, hprint⟩ | ⟨inTab, pdf, hin, hprint⟩ :=
      printTab_runs host settings html options htab.held
    · obtain ⟨failure, hclose⟩ := closeTab_runs host options.label hprint.held
      refine ⟨_, .failed hopening hin failure, hopen.andThen (htab.andThen (Runs.bind_error
        (hprint.tryCatch_error ?_)))⟩
      exact hclose.thenThrow (passFailure options.label reason)
    · -- The handler of a failure in the tab has to be named: nothing else in the goal does.
      have htry := hprint.tryCatch_ok fun e => do
        closeTab host options.label
        throw (passFailure options.label e.message)
      obtain ⟨failure, hclose⟩ := closeTab_runs host options.label htry.held
      have hrange := hclose.andThenSilent (rangeOf_runs host options.label pdf hclose.held)
      exact ⟨_, .printed hopening hin failure pdf, hopen.andThen (htab.andThen (htry.bind hrange))⟩
  · exact ⟨_, .noTab hopening reason, hopen.andThen htab.bind_error⟩

end BrowserStep

end FormPress
