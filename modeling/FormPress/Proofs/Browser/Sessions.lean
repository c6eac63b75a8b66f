/-
  FormPress.Proofs.Browser.Sessions

  What holds of every session, however it is used (`BrowserUse`) and whichever
  calls fail: its events keep drivers and browsers apart (`TidyEvents`), and every
  pass that it prints closes the tab that it created, counts the pages that it
  returns, and comes out the same whether or not the tab could be closed
  (`TidyPass`).  The main statement, `session_tidy`, says both.
-/
import FormPress.Proofs.Browser.Custody
import Mathlib.Data.List.Basic

namespace FormPress

variable {σ : Type}

/-! ## Using a session -/

/-- What can be done with a session. The uses in a block have the browser open before and closed
    after them. A use that fails ends the uses around it, unless it was an attempt. -/
inductive BrowserUse where
  | openBrowser
  | close
  | renderPass (html : String) (options : PrintOptions)
  | block (uses : List BrowserUse)
  | attempt (use : BrowserUse)

namespace BrowserUse

variable (host : BrowserHost σ) (settings : BrowserSettings)

mutual

/-- Makes a use of a session. -/
def run : BrowserUse → BrowserStep σ Unit
  | openBrowser => BrowserStep.openBrowser host settings
  | close => BrowserStep.close host
  | renderPass html options => do let _ ← BrowserStep.renderPass host settings html options
  | block uses => BrowserStep.within host settings (runAll uses)
  | attempt use => tryCatch use.run fun _ => pure ()

/-- Makes some uses of a session in turn. -/
def runAll : List BrowserUse → BrowserStep σ Unit
  | [] => pure ()
  | use :: uses => do
    use.run
    runAll uses

end

mutual

/-- Every use of a session keeps to what is held. -/
theorem run_inOrder : ∀ use : BrowserUse, BrowserStep.InOrder host (use.run host settings)
  | openBrowser => by rw [run]; exact .openBrowser settings
  | close => by rw [run]; exact .close
  | renderPass html options => by
      rw [run]
      exact .bind (.renderPass settings html options) fun _ => .pure ()
  | block uses => by rw [run]; exact .within settings (runAll_inOrder uses)
  | attempt use => by rw [run]; exact .tryCatch (run_inOrder use) fun _ => .pure ()

theorem runAll_inOrder :
    ∀ uses : List BrowserUse, BrowserStep.InOrder host (runAll host settings uses)
  | [] => by rw [runAll]; exact .pure ()
  | use :: uses => by
      rw [runAll]
      exact .bind (run_inOrder use) fun _ => runAll_inOrder uses

end

end BrowserUse

/-! ## Events of a session -/

namespace BrowserEvent

/-- A driver was started. -/
def Started (e : BrowserEvent) : Prop := e.call = .start ∧ e.failure = none

/-- A browser was launched. -/
def Launched (e : BrowserEvent) : Prop := (∃ name, e.call = .launch name) ∧ e.failure = none

/-- The browser was closed. -/
def ClosedBrowser (e : BrowserEvent) : Prop := e.call = .closeBrowser ∧ e.failure = none

/-- The driver was asked to stop. -/
def StopTried (e : BrowserEvent) : Prop := e.call = .stop

end BrowserEvent

/-- Between any two events of one kind there is one of another kind. -/
def Apart (kind between : BrowserEvent → Prop) (es : List BrowserEvent) : Prop :=
  ∀ (xs ys zs : List BrowserEvent) (e f : BrowserEvent),
    es = xs ++ e :: ys ++ f :: zs → kind e → kind f → ∃ g ∈ ys, between g

/-- The events of a session keep drivers and browsers apart. What is held at any time is told by the
    events before it. -/
structure TidyEvents (es : List BrowserEvent) : Prop where
  /-- a browser is held with a driver only -/
  driver_of_browser : ∀ xs, xs <+: es → (Held.nothing.after xs).browser →
    (Held.nothing.after xs).driver
  /-- that driver is the one that it was launched from: while a browser is held no driver is started
      or stopped, and no browser is launched -/
  browser_alone : ∀ xs e, xs ++ [e] <+: es →
    (e.call = .start ∨ e.call = .stop ∨ ∃ name, e.call = .launch name) →
    (Held.nothing.after xs).browser = false
  launches_apart : Apart BrowserEvent.Launched BrowserEvent.ClosedBrowser es
  starts_apart : Apart BrowserEvent.Started BrowserEvent.StopTried es

namespace Custody

/-- An event among some that may happen is allowed when it is its turn. -/
theorem allows_of_admits {c : Custody} {xs ys : List BrowserEvent} {e : BrowserEvent}
    (h : c.Admits (xs ++ e :: ys)) : (c.after xs).allows e.call :=
  ((c.admits_append xs (e :: ys)).mp h).2.1

/-- Something that is there after each event of one kind, goes with an event of another kind only and
    keeps a further event of the first kind from happening. -/
theorem apart_of_flag {kind between : BrowserEvent → Prop} (flag : Custody → Bool)
    (hset : ∀ (c : Custody) e, kind e → flag (c.next e))
    (hkeep : ∀ (c : Custody) e, flag c → ¬ between e → flag (c.next e))
    (hneeds : ∀ (c : Custody) e, c.allows e.call → kind e → flag c = false)
    {c : Custody} {es : List BrowserEvent} (h : c.Admits es) : Apart kind between es := by
  rintro xs ys zs e f rfl he hf
  refine Classical.byContradiction fun hnone => ?_
  -- The flag that the first event raised is still up when the second one is allowed.
  have hstays (d : Custody) (hd : flag d) (gs : List BrowserEvent) (hgs : ∀ g ∈ gs, ¬ between g) :
      flag (d.after gs) := by
    induction gs generalizing d with
    | nil => exact hd
    | cons g gs ih =>
        exact ih (d.next g) (hkeep d g hd (hgs g (List.mem_cons_self ..)))
          fun g' hg' => hgs g' (List.mem_cons_of_mem _ hg')
  have hflag : flag (c.after (xs ++ e :: ys)) := by
    rw [after_append]
    exact hstays _ (hset _ e he) ys fun g hg hbetween => hnone ⟨g, hg, hbetween⟩
  have hclear := hneeds _ f (allows_of_admits h) hf
  rw [hflag] at hclear
  cases hclear

/-- Between two launches the browser was closed. -/
theorem launches_apart {c : Custody} {es : List BrowserEvent} (h : c.Admits es) :
    Apart BrowserEvent.Launched BrowserEvent.ClosedBrowser es := by
  -- The flag is the browser that is held.
  refine apart_of_flag (fun d => d.browser) ?_ ?_ ?_ h
  · rintro d ⟨call, failure⟩ ⟨⟨name, rfl⟩, rfl⟩
    rfl
  · -- Only a browser that was closed is no longer held.
    rintro d ⟨call, _ | reason⟩ hd hnot
    · cases call with
      | closeBrowser => exact absurd ⟨rfl, rfl⟩ hnot
      | launch => rfl
      | _ => exact hd
    · cases call <;> exact hd
  · rintro d ⟨call, failure⟩ hallows ⟨⟨name, rfl⟩, -⟩
    simpa [allows] using (Bool.and_eq_true_iff.mp hallows).2

/-- Between two starts the driver was asked to stop. -/
theorem starts_apart {c : Custody} {es : List BrowserEvent} (h : c.Admits es) :
    Apart BrowserEvent.Started BrowserEvent.StopTried es := by
  -- The flag is the driver that has not been asked to stop.
  refine apart_of_flag (fun d => d.stopDue) ?_ ?_ ?_ h
  · rintro d ⟨call, failure⟩ ⟨rfl, rfl⟩
    exact Bool.or_true _
  · rintro d ⟨call, failure⟩ hd hnot
    cases call with
    | stop => exact absurd rfl hnot
    | start => exact Bool.or_eq_true_iff.mpr (.inl hd)
    | _ => exact hd
  · rintro d ⟨call, failure⟩ hallows ⟨rfl, -⟩
    simpa [allows] using (Bool.and_eq_true_iff.mp hallows).2

/-- A browser that is held with a driver stays so as long as only allowed calls are made. -/
theorem driver_of_browser_after {c : Custody} (hc : c.browser → c.driver) {es : List BrowserEvent}
    (h : c.Admits es) : (c.after es).browser → (c.after es).driver := by
  induction es generalizing c with
  | nil => exact hc
  | cons e es ih =>
      refine ih ?_ h.2
      obtain ⟨call, _ | reason⟩ := e
      · -- The driver is only let go where no browser is held any more.
        cases call with
        | start => exact fun _ => rfl
        | launch => exact fun _ => (Bool.and_eq_true_iff.mp h.1).1
        | closeBrowser => exact fun hbrowser => absurd hbrowser Bool.false_ne_true
        | stop =>
            have hnone : c.browser = false := by simpa using (Bool.and_eq_true_iff.mp h.1).2
            exact fun hbrowser => absurd (hnone.symm.trans hbrowser) Bool.false_ne_true
        | _ => exact hc
      · cases call <;> exact hc

/-- Events that may happen one after the other are tidy. -/
theorem tidyEvents {es : List BrowserEvent} (h : initial.Admits es) : TidyEvents es where
  driver_of_browser := by
    rintro xs ⟨ys, rfl⟩ hbrowser
    have hxs := ((initial.admits_append xs ys).mp h).1
    have hdriver := driver_of_browser_after (by decide) hxs
    rw [show Held.nothing = initial.toHeld from rfl, ← after_toHeld] at hbrowser ⊢
    exact hdriver hbrowser
  browser_alone := by
    rintro xs e ⟨ys, rfl⟩ hcall
    rw [List.append_assoc] at h
    have hallows := allows_of_admits h
    rw [show Held.nothing = initial.toHeld from rfl, ← after_toHeld]
    obtain hcall | hcall | ⟨name, hcall⟩ := hcall <;>
      · rw [hcall] at hallows
        simp only [allows, Bool.and_eq_true, Bool.not_eq_true'] at hallows
        simp [hallows]
  launches_apart := launches_apart h
  starts_apart := starts_apart h

end Custody

/-! ## Passes -/

/-- A host that answers as another one does, the closing of tabs apart. -/
structure BrowserHost.SameButTabs (host host' : BrowserHost σ) : Prop where
  perform : ∀ (c : BrowserCall) (t : σ), c ≠ .closeTab → host.perform c t = host'.perform c t
  printed : ∀ t : σ, host.printed t = host'.printed t

/-- The notes on the tabs that were closed. -/
def closingNotes (label : String) (es : List BrowserEvent) : List LogEntry :=
  es.flatMap fun e => if e.call = .closeTab then tabNotes label e.failure else []

/-- An event that neither creates nor closes a tab. -/
def BrowserEvent.InnerEvent (e : BrowserEvent) : Prop := e.call ≠ .closeTab ∧ e.call ≠ .newTab

/-- Printing a pass closes the tab that it created, and not being able to is only noted. -/
structure TidyPass (host : BrowserHost σ) (settings : BrowserSettings) (html : String)
    (options : PrintOptions) (s : BrowserSession σ) : Prop where
  /-- at most one tab is created, and it is closed once, by the last event -/
  tab_closed : ∀ xs ys,
    (BrowserStep.renderPass host settings html options).events host s =
      xs ++ ⟨.newTab, none⟩ :: ys →
    ∃ zs failure, ys = zs ++ [⟨.closeTab, failure⟩] ∧ ∀ e ∈ xs ++ zs, e.InnerEvent
  /-- whether the tab can be closed has no influence on the result -/
  result_kept : ∀ host' : BrowserHost σ, host.SameButTabs host' →
    (BrowserStep.renderPass host settings html options s).1 =
      (BrowserStep.renderPass host' settings html options s).1
  /-- all that is noted is a tab that could not be closed -/
  notes : (BrowserStep.renderPass host settings html options s).2.log =
    s.log ++ closingNotes options.label
      ((BrowserStep.renderPass host settings html options).events host s)
  counted : ∀ range, (BrowserStep.renderPass host settings html options s).1 = .ok range →
    ∃ count : Nat, range.pdf.count = .ok count ∧ range.pageCount = count

namespace BrowserStep

variable {host host' : BrowserHost σ}

/-- A call that closes no tab is answered alike by both hosts. -/
theorem call_congr (h : host.SameButTabs host') {c : BrowserCall} (hc : c ≠ .closeTab) :
    call host c = call host' c := by
  funext s
  rw [call, call, h.perform c s.host hc]

theorem openBrowser_congr (h : host.SameButTabs host') (settings : BrowserSettings) :
    openBrowser host settings = openBrowser host' settings := by
  have hstart := call_congr h (c := .start) (by decide)
  have hlaunch := call_congr h (c := .launch settings.browser) (by simp)
  have hclose := call_congr h (c := .closeBrowser) (by decide)
  have hstop := call_congr h (c := .stop) (by decide)
  simp only [openBrowser, launch, close, hstart, hlaunch, hclose, hstop]

/-- Printing in a tab makes no call that closes one. -/
theorem printTab_congr (h : host.SameButTabs host') (settings : BrowserSettings) (html : String)
    (options : PrintOptions) :
    printTab host settings html options = printTab host' settings html options := by
  have hload := call_congr h (c := .load html settings.waitUntil settings.timeoutMs) (by simp)
  have hprint := call_congr h (c := .print options) (by simp)
  simp only [printTab, hload, hprint, h.printed]

/-- Closing a tab does not fail. -/
theorem closeTab_apply (label : String) (s : BrowserSession σ) :
    (closeTab host label) s = (.ok (), ((closeTab host label) s).2) := by
  obtain ⟨failure, hclose⟩ := closeTab_runs host label (h := s.held) rfl
  exact Prod.ext hclose.result rfl

/-- The result of a pass is settled before its tab is closed. -/
theorem renderPass_result (settings : BrowserSettings) (html : String) (options : PrintOptions)
    (s : BrowserSession σ) :
    (renderPass host settings html options s).1 =
      match (do openBrowser host settings; call host .newTab : BrowserStep σ Unit) s with
      | (.error e, _) => .error e
      | (.ok (), s') =>
        match (printTab host settings html options s').1 with
        | .error e => .error (passFailure options.label e.message)
        | .ok pdf => rangeOf options.label pdf := by
  rw [renderPass, bind_apply, bind_apply]
  -- Each call is opened in turn; where it fails, both sides end with its failure.
  rcases openBrowser host settings s with ⟨e | ⟨⟩, s₁⟩
  · rfl
  simp only [bind_apply]
  rcases call host .newTab s₁ with ⟨e | ⟨⟩, s₂⟩
  · rfl
  simp only [tryCatch_apply]
  rcases printTab host settings html options s₂ with ⟨e | pdf, s₃⟩
  · simp only [bind_apply]
    rw [closeTab_apply]
    rfl
  · simp only
    rw [closeTab_apply]
    simp only [lift_apply, rangeOf]
    cases pdf.count <;> rfl

/-- Whether tabs can be closed has no say in the result of a pass. -/
theorem renderPass_result_congr (h : host.SameButTabs host') (settings : BrowserSettings)
    (html : String) (options : PrintOptions) (s : BrowserSession σ) :
    (renderPass host settings html options s).1 = (renderPass host' settings html options s).1 := by
  rw [renderPass_result, renderPass_result, openBrowser_congr h,
    call_congr h (c := .newTab) (by decide), printTab_congr h]

end BrowserStep

/-! ## What happens in the tab of a pass -/

theorem LaunchFails.inner {name : String} {driver driver' : Bool} {es : List BrowserEvent}
    {reason : String} (h : LaunchFails name driver es reason driver') :
    ∀ e ∈ es, e.InnerEvent := by
  cases h <;> simp [BrowserEvent.InnerEvent]

/-- Opening a browser neither creates nor closes a tab. -/
theorem Opening.inner {name : String} {held : Held} {o : StepOutcome Unit}
    (h : Opening name held o) : ∀ e ∈ o.events, e.InnerEvent := by
  cases h with
  | already | opened => simp [BrowserEvent.InnerEvent]
  | failed h h' =>
      intro e he
      obtain he | he := List.mem_append.mp he
      · exact h.inner e he
      · cases h' <;> simp_all [BrowserEvent.InnerEvent]

theorem InTab.inner {settings : BrowserSettings} {html : String} {options : PrintOptions}
    {es : List BrowserEvent} {failure : Option String}
    (h : InTab settings html options es failure) : ∀ e ∈ es, e.InnerEvent := by
  cases h <;> simp [BrowserEvent.InnerEvent]

theorem closingNotes_append (label : String) (xs ys : List BrowserEvent) :
    closingNotes label (xs ++ ys) = closingNotes label xs ++ closingNotes label ys :=
  List.flatMap_append ..

/-- Where no tab is closed nothing is noted. -/
theorem closingNotes_inner {label : String} {es : List BrowserEvent}
    (h : ∀ e ∈ es, e.InnerEvent) : closingNotes label es = [] := by
  rw [closingNotes, List.flatMap_eq_nil_iff]
  intro e he
  rw [if_neg (h e he).1]

/-- A range of pages has as many as its document. -/
theorem rangeOf_counted {label : String} {pdf : Pdf} {range : PageRange}
    (h : rangeOf label pdf = .ok range) :
    ∃ count : Nat, range.pdf.count = .ok count ∧ range.pageCount = count := by
  rw [rangeOf] at h
  cases hcount : pdf.count with
  | error e =>
      rw [hcount] at h
      cases h
  | ok count =>
      rw [hcount] at h
      cases h
      exact ⟨count, hcount, rfl⟩

namespace Rendering

variable {settings : BrowserSettings} {html : String} {options : PrintOptions} {held : Held}
  {o : StepOutcome PageRange}

/-- The events of a pass that has a tab of its own can be cut at its creation in one way only. -/
theorem cut_at_tab {es inTab xs ys : List BrowserEvent} {failure : Option String}
    (hes : ∀ e ∈ es, e.InnerEvent) (hin : ∀ e ∈ inTab, e.InnerEvent)
    (h : es ++ ⟨.newTab, none⟩ :: (inTab ++ [⟨.closeTab, failure⟩]) =
      xs ++ ⟨.newTab, none⟩ :: ys) :
    ∃ zs failure, ys = zs ++ [⟨.closeTab, failure⟩] ∧ ∀ e ∈ xs ++ zs, e.InnerEvent := by
  have hbefore : ⟨.newTab, none⟩ ∉ es := fun hmem => (hes _ hmem).2 rfl
  have hafter : ⟨.newTab, none⟩ ∉ inTab ++ [⟨.closeTab, failure⟩] := by
    intro hmem
    obtain hmem | hmem := List.mem_append.mp hmem
    · exact (hin _ hmem).2 rfl
    · simp at hmem
  obtain ⟨rfl, -, rfl⟩ := (List.append_cons_inj_of_notMem hbefore hafter).mp h
  refine ⟨inTab, failure, rfl, fun e he => ?_⟩
  obtain he | he := List.mem_append.mp he
  · exact hes e he
  · exact hin e he

/-- The tab that a pass creates is closed by its last event. -/
theorem tab_closed (h : Rendering settings html options held o) {xs ys : List BrowserEvent}
    (hsplit : o.events = xs ++ ⟨.newTab, none⟩ :: ys) :
    ∃ zs failure, ys = zs ++ [⟨.closeTab, failure⟩] ∧ ∀ e ∈ xs ++ zs, e.InnerEvent := by
  have hmem : ⟨.newTab, none⟩ ∈ o.events := by simp [hsplit]
  -- A pass without a tab has no event that creates one.
  cases h with
  | notOpened h => exact absurd rfl (h.inner _ hmem).2
  | noTab h reason =>
      obtain hmem | hmem := List.mem_append.mp hmem
      · exact absurd rfl (h.inner _ hmem).2
      · simp at hmem
  | failed h h' failure => exact cut_at_tab h.inner h'.inner hsplit
  | printed h h' failure pdf => exact cut_at_tab h.inner h'.inner hsplit

/-- What a pass notes is that its tab could not be closed. -/
theorem notes_eq (h : Rendering settings html options held o) :
    o.notes = closingNotes options.label o.events := by
  have htab {es inTab : List BrowserEvent} (failure : Option String)
      (hes : ∀ e ∈ es, e.InnerEvent) (hin : ∀ e ∈ inTab, e.InnerEvent) :
      tabNotes options.label failure = closingNotes options.label
        (es ++ ⟨.newTab, none⟩ :: (inTab ++ [⟨.closeTab, failure⟩])) := by
    rw [closingNotes_append, closingNotes_inner hes, List.nil_append]
    change _ = closingNotes options.label (inTab ++ [⟨.closeTab, failure⟩])
    rw [closingNotes_append, closingNotes_inner hin, List.nil_append]
    exact (List.append_nil _).symm
  -- The last event is the only one that closes a tab.
  cases h with
  | notOpened h => exact (closingNotes_inner h.inner).symm
  | noTab h reason => rw [closingNotes_append, closingNotes_inner h.inner]; rfl
  | failed h h' failure => exact htab failure h.inner h'.inner
  | printed h h' failure pdf => exact htab failure h.inner h'.inner

theorem counted (h : Rendering settings html options held o) {range : PageRange}
    (hrange : o.result = .ok range) :
    ∃ count : Nat, range.pdf.count = .ok count ∧ range.pageCount = count := by
  cases h with
  | notOpened | noTab | failed => cases hrange
  | printed h h' failure pdf => exact rangeOf_counted hrange

end Rendering

/-- Every pass is tidy. -/
theorem BrowserStep.renderPass_tidy (host : BrowserHost σ) (settings : BrowserSettings)
    (html : String) (options : PrintOptions) (s : BrowserSession σ) :
    TidyPass host settings html options s := by
  obtain ⟨o, hrendering, hrun⟩ := renderPass_runs host settings html options (s := s) rfl
  constructor
  · intro xs ys hsplit
    rw [hrun.events_eq] at hsplit
    exact hrendering.tab_closed hsplit
  · intro host' h
    exact renderPass_result_congr h settings html options s
  · rw [hrun.log, hrun.events_eq, hrendering.notes_eq]
  · intro range hrange
    rw [hrun.result] at hrange
    exact hrendering.counted hrange

/-- Every session that is used in any way keeps drivers and browsers apart and holds what its events
    say, and every pass that it prints is tidy. -/
theorem session_tidy (host : BrowserHost σ) (settings : BrowserSettings) :
    (∀ (uses : List BrowserUse) (start : σ),
      let use := BrowserUse.runAll host settings uses
      TidyEvents (use.events host (.fresh start)) ∧
        (use (.fresh start)).2.held = Held.nothing.after (use.events host (.fresh start))) ∧
    ∀ (html : String) (options : PrintOptions) (s : BrowserSession σ),
      TidyPass host settings html options s := by
  refine ⟨fun uses start => ?_, BrowserStep.renderPass_tidy host settings⟩
  -- From nothing held, all uses lead along events that may happen.
  obtain ⟨o, hrun, hleads⟩ := BrowserUse.runAll_inOrder host settings uses (.fresh start)
    .initial rfl Custody.settled_initial
  have hheld : Held.nothing.after o.events = o.held := by
    rw [← hleads.held, Custody.after_toHeld]
    rfl
  simp only [hrun.events_eq, hrun.held]
  exact ⟨Custody.tidyEvents hleads.admits, hheld.symm⟩

end FormPress
