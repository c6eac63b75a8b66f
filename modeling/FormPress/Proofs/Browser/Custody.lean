/-
  FormPress.Proofs.Browser.Custody

  What is held follows from the events alone (`Held.after`), and every call of a
  session is one that what is held then allows (`Custody.Admits`): a driver is
  started, a browser launched and a driver stopped only while no browser is held, a
  browser is launched only from a driver that is held, and no second driver is
  started before the first one was asked to stop.  Closing, opening and printing a
  pass keep to this, and so does every step that is put together from them
  (`BrowserStep.InOrder`).
-/
import FormPress.Proofs.Browser.Outcomes

namespace FormPress

variable {σ α β : Type}

/-! ## What is held -/

namespace Held

/-- What is held after one more event. -/
def next (h : Held) (e : BrowserEvent) : Held :=
  match e.call, e.failure with
  | .start, none => { h with driver := true }
  | .launch _, none => { h with browser := true }
  | .closeBrowser, none => { h with browser := false }
  | .stop, none => { h with driver := false }
  | _, _ => h

/-- What is held after some more events. -/
def after (h : Held) (es : List BrowserEvent) : Held := es.foldl next h

/-- Nothing is held. -/
def nothing : Held := ⟨false, false⟩

end Held

/-- What is held, and whether a driver was started that has not been asked to stop yet. -/
structure Custody extends Held where
  stopDue : Bool

namespace Custody

/-- The custody before the first event. -/
def initial : Custody := ⟨.nothing, false⟩

/-- Whether a call may be made. -/
def allows (c : Custody) : BrowserCall → Bool
  | .start => !c.browser && !c.stopDue
  | .launch _ => c.driver && !c.browser
  | .stop => c.driver && !c.browser
  | _ => c.browser

/-- The custody after one more event. -/
def next (c : Custody) (e : BrowserEvent) : Custody where
  toHeld := c.toHeld.next e
  stopDue :=
    match e.call with
    | .start => c.stopDue || e.failure.isNone
    | .stop => false
    | _ => c.stopDue

/-- The custody after some more events. -/
def after (c : Custody) (es : List BrowserEvent) : Custody := es.foldl next c

/-- Every event is about a call that may be made when it is its turn. -/
def Admits (c : Custody) : List BrowserEvent → Prop
  | [] => True
  | e :: es => c.allows e.call ∧ (c.next e).Admits es

/-- Between two steps a browser is held with its driver only, and a driver that was not asked to stop
    is held for its browser only. -/
structure Settled (c : Custody) : Prop where
  driver_of_browser : c.browser → c.driver
  browser_of_stopDue : c.stopDue → c.browser

/-- At first nothing is held and nothing is due. -/
theorem settled_initial : initial.Settled := ⟨by decide, by decide⟩

/-- The custody after events in a row. -/
theorem after_append (c : Custody) (xs ys : List BrowserEvent) :
    c.after (xs ++ ys) = (c.after xs).after ys := List.foldl_append ..

/-- What is in custody is what the events say is held. -/
theorem after_toHeld (c : Custody) (es : List BrowserEvent) :
    (c.after es).toHeld = c.toHeld.after es := by
  induction es generalizing c with
  | nil => rfl
  | cons e es ih => exact ih (c.next e)

/-- Events may happen in a row if the later ones may after the earlier ones. -/
theorem admits_append (c : Custody) (xs ys : List BrowserEvent) :
    c.Admits (xs ++ ys) ↔ c.Admits xs ∧ (c.after xs).Admits ys := by
  induction xs generalizing c with
  | nil => simp [Admits, after]
  | cons e xs ih =>
      -- The first event changes the custody for all that follow.
      rw [List.cons_append, Admits, Admits, ih, and_assoc]
      rfl

/-- Events that may happen lead to a settled custody in which so much is held. -/
structure Leads (c : Custody) (es : List BrowserEvent) (h : Held) : Prop where
  admits : c.Admits es
  settled : (c.after es).Settled
  held : (c.after es).toHeld = h

namespace Leads

variable {c : Custody} {h h' : Held}

/-- Without events a settled custody stays as it is. -/
theorem nil (hc : c.Settled) : c.Leads [] c.toHeld := ⟨trivial, hc, rfl⟩

/-- An event that may happen, and others that may happen after it. -/
theorem cons {e : BrowserEvent} {es : List BrowserEvent} (hallowed : c.allows e.call)
    (hes : (c.next e).Leads es h) : c.Leads (e :: es) h :=
  ⟨⟨hallowed, hes.admits⟩, hes.settled, hes.held⟩

/-- Events that may happen, and others that lead on from there. -/
theorem append {xs ys : List BrowserEvent} (hx : c.Admits xs) (hy : (c.after xs).Leads ys h) :
    c.Leads (xs ++ ys) h where
  admits := (c.admits_append xs ys).mpr ⟨hx, hy.admits⟩
  settled := by rw [after_append]; exact hy.settled
  held := by rw [after_append]; exact hy.held

end Leads

end Custody

/-! ## Closing and opening -/

/-- Once no browser is held, a driver that has to be stopped is asked to. -/
theorem LetsGo.leads {c : Custody} {held driver : Bool} {es : List BrowserEvent}
    {result : Except Failure Unit} (h : LetsGo .stop held es result driver)
    (hheld : c.toHeld = ⟨held, false⟩) (hdue : c.stopDue → held) :
    c.Leads es ⟨driver, false⟩ := by
  obtain ⟨toHeld, stopDue⟩ := c
  obtain rfl : toHeld = ⟨held, false⟩ := hheld
  cases h with
  | idle =>
      -- No driver is held, so none is due to be stopped.
      obtain rfl : stopDue = false := by simpa using hdue
      exact .nil ⟨by simp, by simp⟩
  | gone => exact .cons rfl (.nil ⟨by simp [Custody.next, Held.next], by simp [Custody.next]⟩)
  | stuck reason =>
      exact .cons rfl (.nil ⟨by simp [Custody.next, Held.next], by simp [Custody.next]⟩)

/-- Closing leads from a settled custody to a settled one. -/
theorem Closing.leads {c : Custody} {o : StepOutcome Unit} (h : Closing c.toHeld o)
    (hc : c.Settled) : c.Leads o.events o.held := by
  obtain ⟨⟨driver, browser⟩, stopDue⟩ := c
  -- If the browser is stuck nothing changes; if it is gone its driver is due.
  cases h with
  | browserStuck h =>
      cases h
      exact .cons rfl (.nil hc)
  | browserGone h h' =>
      cases h with
      | idle => exact h'.leads rfl fun hdue => absurd (hc.browser_of_stopDue hdue) (by simp)
      | gone =>
          -- The browser was held with its driver, which is therefore asked to stop.
          have hdriver : driver = true := hc.driver_of_browser rfl
          exact .cons rfl (h'.leads rfl fun _ => hdriver)

/-- A failed launch leaves no browser, and with a driver that was started the driver. -/
theorem LaunchFails.admits {c : Custody} {name : String} {held driver : Bool}
    {es : List BrowserEvent} {reason : String} (h : LaunchFails name held es reason driver)
    (hheld : c.toHeld = ⟨held, false⟩) (hdue : c.stopDue = false) :
    c.Admits es ∧ (c.after es).toHeld = ⟨driver, false⟩ ∧ ((c.after es).stopDue → driver) := by
  obtain ⟨toHeld, stopDue⟩ := c
  obtain rfl : toHeld = ⟨held, false⟩ := hheld
  obtain rfl : stopDue = false := hdue
  cases h with
  | noDriver reason => exact ⟨⟨rfl, trivial⟩, rfl, by simp [Custody.after, Custody.next]⟩
  | noBrowser known reason => exact ⟨⟨rfl, rfl, trivial⟩, rfl, fun _ => rfl⟩
  | unknown unknown => exact ⟨⟨rfl, trivial⟩, rfl, fun _ => rfl⟩

/-- Making sure of a browser leads from a settled custody to a settled one. -/
theorem Opening.leads {name : String} {c : Custody} {o : StepOutcome Unit}
    (h : Opening name c.toHeld o) (hc : c.Settled) : c.Leads o.events o.held := by
  obtain ⟨⟨driver, browser⟩, stopDue⟩ := c
  cases h with
  | already => exact .nil hc
  -- Where no browser is held, a settled custody has no driver left to stop, so one may be started.
  | opened known =>
      obtain rfl : stopDue = false := by simpa using hc.browser_of_stopDue
      exact .cons rfl (.cons rfl (.nil ⟨fun _ => rfl, fun _ => rfl⟩))
  | failed h h' =>
      obtain rfl : stopDue = false := by simpa using hc.browser_of_stopDue
      obtain ⟨hadmits, hheld, hdue⟩ :=
        h.admits (c := ⟨⟨driver, false⟩, false⟩) rfl rfl
      exact .append hadmits (h'.leads hheld hdue)

/-! ## Printing -/

/-- Whether a call is about a tab. -/
def BrowserCall.isOfTab : BrowserCall → Bool
  | .newTab | .load _ _ _ | .print _ | .closeTab => true
  | _ => false

/-- What happens in a tab does not change what is held. -/
theorem Custody.next_of_isOfTab (c : Custody) {e : BrowserEvent} (h : e.call.isOfTab) :
    c.next e = c := by
  obtain ⟨call, failure⟩ := e
  cases call with
  | start | launch | closeBrowser | stop => exact absurd h (by simp [BrowserCall.isOfTab])
  | newTab | load | print | closeTab => rfl

/-- With a browser held everything may happen in tabs. -/
theorem Custody.allows_of_isOfTab {c : Custody} (hbrowser : c.browser) {call : BrowserCall}
    (h : call.isOfTab) : c.allows call := by
  cases call with
  | start | launch | closeBrowser | stop => exact absurd h (by simp [BrowserCall.isOfTab])
  | newTab | load | print | closeTab => exact hbrowser

/-- What happens in tabs leaves the custody as it is. -/
theorem Custody.leads_tab {c : Custody} (hc : c.Settled) (hbrowser : c.browser)
    {es : List BrowserEvent} (hes : ∀ e ∈ es, e.call.isOfTab) : c.Leads es c.toHeld := by
  induction es with
  | nil => exact .nil hc
  | cons e es ih =>
      have htab := hes e (List.mem_cons_self ..)
      refine .cons (allows_of_isOfTab hbrowser htab) ?_
      rw [c.next_of_isOfTab htab]
      exact ih fun e he => hes e (List.mem_cons_of_mem _ he)

/-- Between its creation and its end everything is about the tab. -/
theorem InTab.isOfTab {settings : BrowserSettings} {html : String} {options : PrintOptions}
    {es : List BrowserEvent} {failure : Option String}
    (h : InTab settings html options es failure) : ∀ e ∈ es, e.call.isOfTab := by
  cases h <;> simp [BrowserCall.isOfTab]

/-- From its creation to its end everything is about the tab. -/
theorem tab_isOfTab {es : List BrowserEvent} (hes : ∀ e ∈ es, e.call.isOfTab)
    (failure : Option String) :
    ∀ e ∈ ⟨.newTab, none⟩ :: (es ++ [⟨.closeTab, failure⟩]), e.call.isOfTab := by
  simp only [List.mem_cons, List.mem_append, List.not_mem_nil, or_false]
  rintro e (rfl | he | rfl)
  · rfl
  · exact hes e he
  · rfl

/-- A browser that was made sure of is held. -/
theorem Opening.browser_of_ok {name : String} {h h' : Held} {es : List BrowserEvent}
    (ho : Opening name h ⟨es, [], .ok (), h'⟩) : h'.browser := by
  cases ho <;> rfl

/-- Once the browser is opened, everything is about the tab. -/
theorem Opening.leads_tab {name : String} {c : Custody} {es tail : List BrowserEvent} {held : Held}
    (h : Opening name c.toHeld ⟨es, [], .ok (), held⟩) (hc : c.Settled)
    (hes : ∀ e ∈ tail, e.call.isOfTab) : c.Leads (es ++ tail) held := by
  obtain ⟨hadmits, hsettled, hheld⟩ := h.leads hc
  have hbrowser : (c.after es).browser := by
    rw [hheld]
    exact h.browser_of_ok
  have htail := Custody.leads_tab hsettled hbrowser hes
  rw [hheld] at htail
  exact .append hadmits htail

/-- Printing a pass leads from a settled custody to a settled one. -/
theorem Rendering.leads {settings : BrowserSettings} {html : String} {options : PrintOptions}
    {c : Custody} {o : StepOutcome PageRange} (h : Rendering settings html options c.toHeld o)
    (hc : c.Settled) : c.Leads o.events o.held := by
  -- Where the browser was opened, all that follows is about the tab.
  cases h with
  | notOpened h => exact h.leads hc
  | noTab h reason => exact h.leads_tab hc (by simp [BrowserCall.isOfTab])
  | failed h h' failure => exact h.leads_tab hc (tab_isOfTab h'.isOfTab failure)
  | printed h h' failure pdf => exact h.leads_tab hc (tab_isOfTab h'.isOfTab failure)

/-! ## Steps -/

/-- A step keeps to what is held: from a settled custody its events lead to a settled one again, in
    which what the session then holds is held. -/
def BrowserStep.InOrder (host : BrowserHost σ) (m : BrowserStep σ α) : Prop :=
  ∀ (s : BrowserSession σ) (c : Custody), s.held = c.toHeld → c.Settled →
    ∃ o, Runs host m s o ∧ c.Leads o.events o.held

namespace BrowserStep.InOrder

variable {host : BrowserHost σ} {m : BrowserStep σ α} {f : α → BrowserStep σ β}

theorem pure (a : α) : InOrder host (Pure.pure a : BrowserStep σ α) :=
  fun _ _ hs hc => ⟨_, .pure a hs, .nil hc⟩

theorem throw (e : Failure) : InOrder host (MonadExcept.throw e : BrowserStep σ α) :=
  fun _ _ hs hc => ⟨_, .throw e hs, .nil hc⟩

/-- Steps in a row keep to what is held if each of them does. -/
theorem bind (hm : InOrder host m) (hf : ∀ a, InOrder host (f a)) : InOrder host (m >>= f) := by
  intro s c hs hc
  obtain ⟨⟨es, ns, e | a, h⟩, hrun, hleads⟩ := hm s c hs hc
  · exact ⟨_, hrun.bind_error, hleads⟩
  · -- The second step starts in the custody to which the first one led.
    obtain ⟨o, hrun', hleads'⟩ :=
      hf a (m s).2 (c.after es) (hrun.held.trans hleads.held.symm) hleads.settled
    exact ⟨_, hrun.bind hrun', .append hleads.admits hleads'⟩

/-- A step and the answer to its failure keep to what is held if each of them does. -/
theorem tryCatch {answer : Failure → BrowserStep σ α} (hm : InOrder host m)
    (ha : ∀ e, InOrder host (answer e)) : InOrder host (tryCatch m answer) := by
  intro s c hs hc
  obtain ⟨⟨es, ns, e | a, h⟩, hrun, hleads⟩ := hm s c hs hc
  · obtain ⟨o, hrun', hleads'⟩ :=
      ha e (m s).2 (c.after es) (hrun.held.trans hleads.held.symm) hleads.settled
    exact ⟨_, hrun.tryCatch_error hrun', .append hleads.admits hleads'⟩
  · exact ⟨_, hrun.tryCatch_ok _, hleads⟩

theorem close : InOrder host (BrowserStep.close host) := by
  intro s c hs hc
  obtain ⟨o, hclosing, hrun⟩ := close_runs host hs
  exact ⟨o, hrun, hclosing.leads hc⟩

theorem openBrowser (settings : BrowserSettings) :
    InOrder host (BrowserStep.openBrowser host settings) := by
  intro s c hs hc
  obtain ⟨o, hopening, hrun⟩ := openBrowser_runs host settings hs
  exact ⟨o, hrun, hopening.leads hc⟩

theorem renderPass (settings : BrowserSettings) (html : String) (options : PrintOptions) :
    InOrder host (BrowserStep.renderPass host settings html options) := by
  intro s c hs hc
  obtain ⟨o, hrendering, hrun⟩ := renderPass_runs host settings html options hs
  exact ⟨o, hrun, hrendering.leads hc⟩

/-- A block of uses keeps to what is held: its browser is opened before and closed after it. -/
theorem within (settings : BrowserSettings) (hm : InOrder host m) :
    InOrder host (BrowserStep.within host settings m) :=
  (openBrowser settings).bind fun _ =>
    (hm.tryCatch fun e => close.bind fun _ => throw e).bind fun a => close.bind fun _ => pure a

end BrowserStep.InOrder

end FormPress
