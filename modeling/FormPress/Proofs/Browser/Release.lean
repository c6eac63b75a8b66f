/-
  FormPress.Proofs.Browser.Release

  What closing a session lets go of, and with what the next pass then begins.  A
  driver that cannot be stopped stays held, but no browser does, so that the next
  pass starts anew.  A browser that cannot be closed ends the closing: the driver is
  not asked to stop, both stay held, and the next pass creates its tab in the
  browser that could not be closed.  The main statement is
  `close_releases_unless_refused`.
-/
import FormPress.Proofs.Browser.Custody

namespace FormPress

variable {σ : Type}

/-! ## Letting go -/

/-- No call was refused. -/
def NoneRefused (es : List BrowserEvent) : Prop := ∀ e ∈ es, e.failure = none

theorem noneRefused_append (xs ys : List BrowserEvent) :
    NoneRefused (xs ++ ys) ↔ NoneRefused xs ∧ NoneRefused ys := List.forall_mem_append

namespace LetsGo

variable {c : BrowserCall} {held held' : Bool} {es : List BrowserEvent}
  {result : Except Failure Unit}

/-- What is let go is no longer held exactly if the call was not refused. -/
theorem gone_iff (h : LetsGo c held es result held') : held' = false ↔ NoneRefused es := by
  cases h <;> simp [NoneRefused]

theorem ok_iff (h : LetsGo c held es result held') : result = .ok () ↔ NoneRefused es := by
  cases h <;> simp [NoneRefused]

/-- What is held is asked for, and nothing else is. -/
theorem call_eq (h : LetsGo c held es result held') : ∀ e ∈ es, e.call = c := by
  cases h <;> simp

/-- What is held is asked to go. -/
theorem asked (h : LetsGo c held es result held') (hheld : held) : ∃ e ∈ es, e.call = c := by
  cases h with
  | idle => cases hheld
  | gone => exact ⟨_, List.mem_singleton_self _, rfl⟩
  | stuck reason => exact ⟨_, List.mem_singleton_self _, rfl⟩

end LetsGo

namespace Closing

variable {held : Held} {o : StepOutcome Unit}

/-- Nothing is held any more, and closing succeeded, exactly where no call was refused. -/
theorem nothing_iff (h : Closing held o) :
    (o.held = .nothing ↔ NoneRefused o.events) ∧ (o.result = .ok () ↔ NoneRefused o.events) := by
  obtain ⟨driver, browser⟩ := held
  cases h with
  | browserStuck h =>
      cases h with
      | stuck reason => simp [Held.nothing, NoneRefused]
  | browserGone h h' =>
      -- The browser was let go, so all turns on whether the driver was.
      have hbrowser := h.ok_iff.mp rfl
      simp only [noneRefused_append, hbrowser, true_and]
      refine ⟨?_, h'.ok_iff⟩
      rw [← h'.gone_iff, Held.nothing, Held.mk.injEq, h.gone_iff.mpr hbrowser]
      exact and_iff_left rfl

/-- A browser that cannot be closed leaves everything as it is. -/
theorem kept (h : Closing held o) {reason : String} (he : ⟨.closeBrowser, some reason⟩ ∈ o.events) :
    o.held = held ∧ ∀ e ∈ o.events, e.call ≠ .stop := by
  obtain ⟨driver, browser⟩ := held
  cases h with
  | browserStuck h =>
      cases h
      exact ⟨rfl, by simp⟩
  | browserGone h h' =>
      -- The refused call is neither in the first half, which succeeded, nor about stopping.
      obtain he | he := List.mem_append.mp he
      · cases h.ok_iff.mp rfl _ he
      · cases h'.call_eq _ he

/-- Where closing the browser does not fail, none is held any more and a driver is asked to stop. -/
theorem released (h : Closing held o)
    (hnone : ∀ reason, ⟨.closeBrowser, some reason⟩ ∉ o.events) :
    o.held.browser = false ∧ (held.driver → ∃ e ∈ o.events, e.call = .stop) := by
  obtain ⟨driver, browser⟩ := held
  cases h with
  | browserStuck h =>
      cases h with
      | stuck reason => exact absurd (List.mem_singleton_self _) (hnone reason)
  | browserGone h h' =>
      refine ⟨h.gone_iff.mpr (h.ok_iff.mp rfl), fun hdriver => ?_⟩
      obtain ⟨e, he, hcall⟩ := h'.asked hdriver
      exact ⟨e, List.mem_append_right _ he, hcall⟩

end Closing

/-! ## The next pass -/

/-- A browser is started anew: first a driver, and from it the browser asked for if the driver knows
    it. -/
def StartsAnew (name : String) (es : List BrowserEvent) : Prop :=
  ∃ failure rest, es = ⟨.start, failure⟩ :: rest ∧
    (failure = none → knownBrowsers.contains name →
      ∃ failure' rest', rest = ⟨.launch name, failure'⟩ :: rest')

/-- The browser that is held is used: a tab is created at once, and nothing is about anything else. -/
def UsesHeld (es : List BrowserEvent) : Prop :=
  (∃ failure rest, es = ⟨.newTab, failure⟩ :: rest) ∧ ∀ e ∈ es, e.call.isOfTab

/-- What follows does not change how it starts. -/
theorem StartsAnew.append {name : String} {es : List BrowserEvent} (h : StartsAnew name es)
    (tail : List BrowserEvent) : StartsAnew name (es ++ tail) := by
  obtain ⟨failure, rest, rfl, hlaunch⟩ := h
  refine ⟨failure, rest ++ tail, rfl, fun hfailure hknown => ?_⟩
  obtain ⟨failure', rest', rfl⟩ := hlaunch hfailure hknown
  exact ⟨failure', rest' ++ tail, rfl⟩

/-- A launch that fails has started anew. -/
theorem LaunchFails.startsAnew {name : String} {driver driver' : Bool} {es : List BrowserEvent}
    {reason : String} (h : LaunchFails name driver es reason driver') : StartsAnew name es := by
  cases h with
  | noDriver reason => exact ⟨_, _, rfl, nofun⟩
  | noBrowser known reason => exact ⟨_, _, rfl, fun _ _ => ⟨_, _, rfl⟩⟩
  | unknown unknown => exact ⟨_, _, rfl, fun _ known => absurd known unknown⟩

/-- Without a browser held, making sure of one starts anew. -/
theorem Opening.startsAnew {name : String} {driver : Bool} {o : StepOutcome Unit}
    (h : Opening name ⟨driver, false⟩ o) : StartsAnew name o.events := by
  cases h with
  | opened known => exact ⟨_, _, rfl, fun _ _ => ⟨_, _, rfl⟩⟩
  | failed h h' => exact h.startsAnew.append _

namespace Rendering

variable {settings : BrowserSettings} {html : String} {options : PrintOptions} {driver : Bool}
  {o : StepOutcome PageRange}

theorem startsAnew (h : Rendering settings html options ⟨driver, false⟩ o) :
    StartsAnew settings.browser o.events := by
  -- However the pass goes on, it begins with opening the browser.
  cases h with
  | notOpened h => exact h.startsAnew
  | noTab h reason => exact h.startsAnew.append _
  | failed h h' failure => exact h.startsAnew.append _
  | printed h h' failure pdf => exact h.startsAnew.append _

/-- With a browser held a pass is printed by it. -/
theorem usesHeld (h : Rendering settings html options ⟨driver, true⟩ o) : UsesHeld o.events := by
  have hevents {es : List BrowserEvent} (hes : ∀ e ∈ es, e.call.isOfTab) (failure : Option String) :
      UsesHeld (⟨.newTab, none⟩ :: (es ++ [⟨.closeTab, failure⟩])) :=
    ⟨⟨_, _, rfl⟩, tab_isOfTab hes failure⟩
  -- Opening makes no call here, so the tab is what comes first.
  cases h with
  | notOpened h => cases h
  | noTab h reason =>
      cases h
      exact ⟨⟨_, _, rfl⟩, by simp [BrowserCall.isOfTab]⟩
  | failed h h' failure =>
      cases h
      exact hevents h'.isOfTab failure
  | printed h h' failure pdf =>
      cases h
      exact hevents h'.isOfTab failure

end Rendering

/-! ## Closing a session -/

namespace BrowserStep

/-- What closing a session comes to, and the next pass. -/
structure Releases (host : BrowserHost σ) (settings : BrowserSettings) (s : BrowserSession σ) :
    Prop where
  /-- everything is let go exactly where no call is refused -/
  nothing_iff : (close host s).2.held = .nothing ↔ NoneRefused ((close host).events host s)
  ok_iff : (close host s).1 = .ok () ↔ NoneRefused ((close host).events host s)
  /-- a browser that cannot be closed stays held, and so does its driver, which is not asked to stop -/
  kept : ∀ reason, ⟨.closeBrowser, some reason⟩ ∈ (close host).events host s →
    (close host s).2.held = s.held ∧ ∀ e ∈ (close host).events host s, e.call ≠ .stop
  /-- otherwise no browser is held any more, and a driver is asked to stop -/
  released : (∀ reason, ⟨.closeBrowser, some reason⟩ ∉ (close host).events host s) →
    (close host s).2.browser = false ∧
      (s.driver → ∃ e ∈ (close host).events host s, e.call = .stop)
  /-- the next pass starts anew exactly where no browser is held any more -/
  next_pass : ∀ (html : String) (options : PrintOptions),
    let es := (renderPass host settings html options).events host (close host s).2
    if (close host s).2.browser then UsesHeld es else StartsAnew settings.browser es

/-- Whether a pass starts anew is told by the browser that is held. -/
theorem renderPass_begins (host : BrowserHost σ) (settings : BrowserSettings) (html : String)
    (options : PrintOptions) (s : BrowserSession σ) :
    let es := (renderPass host settings html options).events host s
    if s.browser then UsesHeld es else StartsAnew settings.browser es := by
  obtain ⟨o, hrendering, hrun⟩ := renderPass_runs host settings html options (s := s) rfl
  simp only [hrun.events_eq]
  split
  next hbrowser =>
    rw [BrowserSession.held, hbrowser] at hrendering
    exact hrendering.usesHeld
  next hbrowser =>
    rw [BrowserSession.held, Bool.eq_false_iff.mpr hbrowser] at hrendering
    exact hrendering.startsAnew

/-- Closing any session lets go of everything unless a call is refused; a driver is asked to stop, and
    the next pass starts anew, unless it was the browser that could not be closed. -/
theorem close_releases_unless_refused (host : BrowserHost σ) (settings : BrowserSettings)
    (s : BrowserSession σ) : Releases host settings s := by
  obtain ⟨o, hclosing, hrun⟩ := close_runs host (s := s) rfl
  have hbrowser : (close host s).2.browser = o.held.browser := congrArg Held.browser hrun.held
  constructor
  · rw [hrun.held, hrun.events_eq]
    exact hclosing.nothing_iff.1
  · rw [hrun.result, hrun.events_eq]
    exact hclosing.nothing_iff.2
  · rw [hrun.held, hrun.events_eq]
    exact fun reason => hclosing.kept
  · rw [hbrowser, hrun.events_eq]
    exact hclosing.released
  · exact fun html options => renderPass_begins host settings html options _

/-- A host whose browser cannot be closed. -/
def unclosable : BrowserHost Unit where
  perform c _ := (if c = .closeBrowser then .error "target crashed" else .ok (), ())
  printed _ := .pages [595]

/-- After a browser was opened that cannot be closed, closing leaves it held together with a driver
    that is not asked to stop, and the next pass is printed by it. -/
theorem close_keeps_unclosable :
    let opened := (openBrowser unclosable {} (.fresh ())).2
    (close unclosable).events unclosable opened = [⟨.closeBrowser, some "target crashed"⟩] ∧
      (close unclosable opened).2.held = ⟨true, true⟩ ∧
      ((renderPass unclosable {} "" ⟨"body", "A4", [], true, false, "", ""⟩).events unclosable
        (close unclosable opened).2).head? = some ⟨.newTab, none⟩ :=
  ⟨rfl, rfl, rfl⟩

end BrowserStep

end FormPress
