/-
  FormPress.Proofs.Browser.Failures

  With which failure opening a browser and printing a pass fail.  A failure of the
  engine's own says what went wrong first, but two failures escape as they are: that
  of a tab that cannot be created, and that of a driver that cannot be stopped after
  a failed start, which takes the place of what went wrong before.  The main
  statement, `failures_reported_unless_escaped`, says that nothing else escapes.
-/
import FormPress.Proofs.Browser.Outcomes

namespace FormPress

variable {σ α β : Type}

/-! ## What went wrong -/

/-- The reason for which a tab could not be created or a driver not be stopped. -/
def BrowserEvent.escape (e : BrowserEvent) : Option String :=
  match e.call with
  | .newTab | .stop => e.failure
  | _ => none

/-- The reasons of the failures that escape. -/
def escapes (es : List BrowserEvent) : List String := es.filterMap (·.escape)

/-- What went wrong with an event: the call failed, or a driver was started that does not know the
    browser asked for. -/
def BrowserEvent.trouble (name : String) (e : BrowserEvent) : Option String :=
  match e.failure with
  | some reason => some reason
  | none =>
    if e.call = .start ∧ ¬ knownBrowsers.contains name then some ("no browser " ++ name) else none

/-- What went wrong first. -/
def firstTrouble (name : String) (es : List BrowserEvent) : Option String :=
  es.findSome? (·.trouble name)

/-- How a step reports that it failed: with the failure of a call that escapes, or else with one of
    its own. -/
def Reported (es : List BrowserEvent) (own : Failure → Prop) (result : Except Failure α) : Prop :=
  match escapes es with
  | reason :: _ => result = .error (.outside reason)
  | [] => ∀ e, result = .error e → own e

/-- A failure to open a browser says what went wrong first. -/
def OpenFailure (name : String) (es : List BrowserEvent) (e : Failure) : Prop :=
  ∃ reason, firstTrouble name es = some reason ∧ e = startFailure reason

/-- A failure to print a pass says what went wrong first, or that pages cannot be read. -/
def PassFailure (name label : String) (es : List BrowserEvent) (e : Failure) : Prop :=
  OpenFailure name es e ∨
    (∃ reason, firstTrouble name es = some reason ∧ e = passFailure label reason) ∨
    e = pageFailure .unreadable

/-- A failure that is reported is so for any other kind of result. -/
theorem Reported.of_error {es : List BrowserEvent} {own own' : Failure → Prop} {e : Failure}
    (h : Reported es own (.error e : Except Failure α)) (hown : own e → own' e) :
    Reported es own' (.error e : Except Failure β) := by
  rw [Reported] at h ⊢
  cases hes : escapes es with
  | nil =>
      rw [hes] at h
      rintro e' ⟨⟩
      exact hown (h e rfl)
  | cons reason rest =>
      rw [hes] at h
      exact congrArg _ (Except.error.inj h)

theorem BrowserEvent.trouble_of_ne_start {name : String} {c : BrowserCall} (hc : c ≠ .start) :
    (⟨c, none⟩ : BrowserEvent).trouble name = none := if_neg fun h => hc h.1

theorem BrowserEvent.trouble_of_known {name : String} {c : BrowserCall}
    (known : knownBrowsers.contains name) : (⟨c, none⟩ : BrowserEvent).trouble name = none :=
  if_neg fun h => h.2 known

theorem escapes_append (xs ys : List BrowserEvent) :
    escapes (xs ++ ys) = escapes xs ++ escapes ys := List.filterMap_append ..

theorem firstTrouble_append (name : String) (xs ys : List BrowserEvent) :
    firstTrouble name (xs ++ ys) = (firstTrouble name xs).or (firstTrouble name ys) :=
  List.findSome?_append ..

/-! ## Opening -/

/-- A launch that fails gives the reason of what went wrong first, and nothing escapes. -/
theorem LaunchFails.reported {name : String} {driver driver' : Bool} {es : List BrowserEvent}
    {reason : String} (h : LaunchFails name driver es reason driver') :
    escapes es = [] ∧ firstTrouble name es = some reason := by
  -- The driver fails, the browser fails, or the driver does not know the browser.
  cases h with
  | noDriver reason => exact ⟨rfl, rfl⟩
  | noBrowser known reason =>
      refine ⟨rfl, ?_⟩
      rw [firstTrouble, List.findSome?_cons, BrowserEvent.trouble_of_known known]
      rfl
  | unknown unknown =>
      have hstart : (⟨.start, none⟩ : BrowserEvent).trouble name = some ("no browser " ++ name) :=
        if_pos ⟨rfl, unknown⟩
      refine ⟨rfl, ?_⟩
      rw [firstTrouble, List.findSome?_cons, hstart]

/-- A browser that cannot be opened is reported, unless the driver cannot be stopped again. -/
theorem Opening.reported {name : String} {held : Held} {o : StepOutcome Unit}
    (h : Opening name held o) : Reported o.events (OpenFailure name o.events) o.result := by
  cases h with
  | already | opened => rintro e ⟨⟩
  | failed h h' =>
      obtain ⟨hescapes, htrouble⟩ := h.reported
      rw [Reported, escapes_append, hescapes]
      -- Whether the driver can be stopped decides which of the two failures is left.
      cases h' with
      | idle | gone =>
          rintro e ⟨⟩
          refine ⟨_, ?_, rfl⟩
          rw [firstTrouble_append, htrouble]
          rfl
      | stuck reason => rfl

/-- Nothing goes wrong where a browser is opened. -/
theorem Opening.no_trouble {name : String} {held held' : Held} {es : List BrowserEvent}
    (h : Opening name held ⟨es, [], .ok (), held'⟩) :
    escapes es = [] ∧ firstTrouble name es = none := by
  cases h with
  | already => exact ⟨rfl, rfl⟩
  | opened driver known =>
      refine ⟨rfl, ?_⟩
      rw [firstTrouble, List.findSome?_cons, BrowserEvent.trouble_of_known known]
      rfl

/-! ## Printing -/

/-- What fails in a tab went wrong first there, and nothing escapes. -/
theorem InTab.reported {settings : BrowserSettings} {html : String} {options : PrintOptions}
    {es : List BrowserEvent} {failure : Option String}
    (h : InTab settings html options es failure) (name : String) :
    escapes es = [] ∧ firstTrouble name es = failure := by
  have hload : BrowserEvent.trouble name
      ⟨.load html settings.waitUntil settings.timeoutMs, none⟩ = none :=
    BrowserEvent.trouble_of_ne_start nofun
  have hprint : BrowserEvent.trouble name ⟨.print options, none⟩ = none :=
    BrowserEvent.trouble_of_ne_start nofun
  cases h with
  | notLoaded reason => exact ⟨rfl, rfl⟩
  | notPrinted reason =>
      refine ⟨rfl, ?_⟩
      rw [firstTrouble, List.findSome?_cons, hload]
      rfl
  | printed =>
      refine ⟨rfl, ?_⟩
      rw [firstTrouble, List.findSome?_cons, hload, List.findSome?_cons, hprint]
      rfl

/-- What happens in a tab does not escape, and what goes wrong in it went wrong first. -/
theorem Opening.tab_reported {settings : BrowserSettings} {html : String} {options : PrintOptions}
    {held held' : Held} {es inTab : List BrowserEvent} {failed : Option String}
    (h : Opening settings.browser held ⟨es, [], .ok (), held'⟩)
    (h' : InTab settings html options inTab failed) (failure : Option String) :
    escapes (es ++ ⟨.newTab, none⟩ :: (inTab ++ [⟨.closeTab, failure⟩])) = [] ∧
      firstTrouble settings.browser (es ++ ⟨.newTab, none⟩ :: (inTab ++ [⟨.closeTab, failure⟩])) =
        failed.or failure := by
  obtain ⟨hescapes, htrouble⟩ := h.no_trouble
  obtain ⟨hescapes', htrouble'⟩ := h'.reported settings.browser
  constructor
  · rw [escapes_append, hescapes, ← List.singleton_append, escapes_append, escapes_append, hescapes']
    rfl
  · -- Opening went well and the tab was created, so the tab is the first place to look at.
    rw [firstTrouble_append, htrouble, Option.none_or, firstTrouble, List.findSome?_cons,
      BrowserEvent.trouble_of_ne_start (c := .newTab) nofun]
    change firstTrouble settings.browser (inTab ++ [⟨.closeTab, failure⟩]) = _
    rw [firstTrouble_append, htrouble']
    cases failure with
    | none => rfl
    | some reason => rfl

/-- Pages are not counted only where they cannot be read. -/
theorem rangeOf_error {label : String} {pdf : Pdf} {e : Failure} (h : rangeOf label pdf = .error e) :
    e = pageFailure .unreadable := by
  cases pdf with
  | pages widths => cases h
  | unreadable => exact (Except.error.inj h).symm

/-- A pass that fails is reported, unless its tab could not be created. -/
theorem Rendering.reported {settings : BrowserSettings} {html : String} {options : PrintOptions}
    {held : Held} {o : StepOutcome PageRange} (h : Rendering settings html options held o) :
    Reported o.events (PassFailure settings.browser options.label o.events) o.result := by
  -- Only the failure to create the tab passes without being wrapped.
  cases h with
  | notOpened h => exact h.reported.of_error .inl
  | noTab h reason =>
      rw [Reported, escapes_append, h.no_trouble.1]
      rfl
  | failed h h' failure =>
      obtain ⟨hescapes, htrouble⟩ := h.tab_reported h' failure
      rw [Reported, hescapes]
      rintro e ⟨⟩
      exact .inr (.inl ⟨_, htrouble, rfl⟩)
  | printed h h' failure pdf =>
      rw [Reported, (h.tab_reported h' failure).1]
      intro e he
      exact .inr (.inr (rangeOf_error he))

namespace BrowserStep

/-- In every session, a failure of opening the browser or of printing a pass is the engine's own and
    says what went wrong first, or that pages cannot be read, unless a tab could not be created or a
    driver not be stopped: the failure of that call escapes. -/
theorem failures_reported_unless_escaped (host : BrowserHost σ) (settings : BrowserSettings)
    (s : BrowserSession σ) :
    (let es := (openBrowser host settings).events host s
     Reported es (OpenFailure settings.browser es) (openBrowser host settings s).1) ∧
    ∀ (html : String) (options : PrintOptions),
      let es := (renderPass host settings html options).events host s
      Reported es (PassFailure settings.browser options.label es)
        (renderPass host settings html options s).1 := by
  constructor
  · obtain ⟨o, hopening, hrun⟩ := openBrowser_runs host settings (s := s) rfl
    simp only [hrun.events_eq, hrun.result]
    exact hopening.reported
  · intro html options
    obtain ⟨o, hrendering, hrun⟩ := renderPass_runs host settings html options (s := s) rfl
    simp only [hrun.events_eq, hrun.result]
    exact hrendering.reported

/-- A host that refuses some calls. -/
def refusing (refused : BrowserCall → Option String) : BrowserHost Unit where
  perform c _ := (match refused c with | none => .ok () | some reason => .error reason, ())
  printed _ := .pages [595]

/-- The failure to create a tab is not the engine's own, nor is that of a driver that cannot be stopped
    after a failed launch. -/
theorem failures_escape :
    let crashed := refusing fun c => if c = .newTab then some "target crashed" else none
    let stuck := refusing fun c =>
      if c = .launch "chromium" then some "no executable"
      else if c = .stop then some "stop failed"
      else none
    (renderPass crashed {} "" ⟨"body", "A4", [], true, false, "", ""⟩ (.fresh ())).1 =
        .error (.outside "target crashed") ∧
      (openBrowser stuck {} (.fresh ())).1 = .error (.outside "stop failed") :=
  ⟨rfl, rfl⟩

end BrowserStep

end FormPress
