/-
  FormPress.Proofs.Browser.Alike

  Sessions that hold a browser and whose hosts answer all calls alike
  (`BrowserSession.Alike`).  A pass is printed the same in them
  (`BrowserStep.renderPass_respects`): what was called and noted before has no
  say in it.
-/
import FormPress.Proofs.Browser.Events

namespace FormPress

variable {σ α : Type}

/-! ## Hosts that answer alike -/

/-- Two states of a host in which all calls are answered alike, with the same print after them. -/
def BrowserHost.AnswersAlike (host : BrowserHost σ) (a b : σ) : Prop :=
  ∀ cs, host.answers a cs = host.answers b cs ∧
    host.printed (host.after a cs) = host.printed (host.after b cs)

namespace BrowserHost.AnswersAlike

variable {host : BrowserHost σ} {a b : σ}

/-- A state answers as itself. -/
theorem refl (host : BrowserHost σ) (a : σ) : host.AnswersAlike a a := fun _ => ⟨rfl, rfl⟩

theorem printed (h : host.AnswersAlike a b) : host.printed a = host.printed b := (h []).2

/-- A call fails in both for the same reason, or in neither. -/
theorem failure (h : host.AnswersAlike a b) (c : BrowserCall) :
    failureOf (host.perform c a).1 = failureOf (host.perform c b).1 := by
  have hevents := (h [c]).1
  exact congrArg BrowserEvent.failure (List.cons.inj hevents).1

/-- After a call all calls are still answered alike. -/
theorem perform (h : host.AnswersAlike a b) (c : BrowserCall) :
    host.AnswersAlike (host.perform c a).2 (host.perform c b).2 := by
  intro cs
  obtain ⟨hevents, hprinted⟩ := h (c :: cs)
  exact ⟨(List.cons.inj hevents).2, hprinted⟩

end BrowserHost.AnswersAlike

/-! ## Sessions that are alike -/

/-- Two sessions that hold a browser, with hosts that answer alike. -/
structure BrowserSession.Alike (host : BrowserHost σ) (s t : BrowserSession σ) : Prop where
  browser : s.browser = true
  browser' : t.browser = true
  answers : host.AnswersAlike s.host t.host

namespace BrowserStep

variable {host : BrowserHost σ}

/-- In sessions that are alike, a step comes out the same and leaves sessions that are alike. -/
abbrev RespectsAlike (host : BrowserHost σ) (m : BrowserStep σ α) : Prop :=
  Respects (BrowserSession.Alike host) m

/-- A call is answered alike. -/
theorem call_respects (c : BrowserCall) : RespectsAlike host (call host c) := by
  intro s t h
  rw [call_apply, call_apply, h.answers.failure c]
  exact ⟨rfl, h.browser, h.browser', h.answers.perform c⟩

theorem note_respects (entry : LogEntry) : RespectsAlike host (note entry) :=
  fun _ _ h => ⟨rfl, h.browser, h.browser', h.answers⟩

/-- With a browser held there is nothing to open. -/
theorem openBrowser_of_held (settings : BrowserSettings) {s : BrowserSession σ}
    (h : s.browser = true) : (openBrowser host settings) s = (.ok (), s) := by
  rw [openBrowser, bind_apply]
  simp only [get_apply, if_pos h]
  rfl

/-- Where both sessions hold a browser, neither opens one. -/
theorem openBrowser_respects (settings : BrowserSettings) :
    RespectsAlike host (openBrowser host settings) := by
  intro s t h
  rw [openBrowser_of_held settings h.browser, openBrowser_of_held settings h.browser']
  exact ⟨rfl, h⟩

theorem closeTab_respects (label : String) : RespectsAlike host (closeTab host label) :=
  (call_respects _).tryCatch fun _ => note_respects _

/-- Markup is loaded and printed alike, with the same print. -/
theorem printTab_respects (settings : BrowserSettings) (html : String) (options : PrintOptions) :
    RespectsAlike host (printTab host settings html options) := by
  refine (call_respects _).bind fun _ => (call_respects _).bind fun _ => ?_
  -- The print is read off the host, where it is the same for both.
  refine .getThen ?_ fun s => .pure _
  intro s t h
  rw [h.answers.printed]

/-- A pass is printed the same in sessions that are alike. -/
theorem renderPass_respects (settings : BrowserSettings) (html : String) (options : PrintOptions) :
    RespectsAlike host (renderPass host settings html options) := by
  refine (openBrowser_respects settings).bind fun _ => (call_respects _).bind fun _ => ?_
  -- The tab is closed whether it was printed or not.
  refine .bind ((printTab_respects settings html options).tryCatch fun e => ?_) fun pdf => ?_
  · exact (closeTab_respects _).bind fun _ => .throw _
  · exact (closeTab_respects _).bind fun _ => .bind (.lift _) fun count => .pure _

end BrowserStep

end FormPress
