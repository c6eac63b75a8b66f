/-
  FormPress.Proofs.Browser.Events

  What a step of a session asks of the driver, the browser and its tabs, and how
  that is answered (`BrowserStep.events`).  The calls and the answers are those of
  the host as it stood when the step began, so they are found again by asking it
  anew.  How a step comes out (`Runs`) is put together from how its parts come out.
-/
import FormPress.Print.Browser
import FormPress.Proofs.Steps

namespace FormPress

variable {σ α β : Type}

/-! ## Events -/

/-- A call, and the reason for which it failed, if it did. -/
structure BrowserEvent where
  call : BrowserCall
  failure : Option String
  deriving Repr, DecidableEq, Inhabited

/-- The reason in an answer that is a failure. -/
def failureOf : Except String Unit → Option String
  | .ok () => none
  | .error reason => some reason

/-- The events of some calls that a host answers in turn. -/
def BrowserHost.answers (host : BrowserHost σ) : σ → List BrowserCall → List BrowserEvent
  | _, [] => []
  | t, c :: cs => ⟨c, failureOf (host.perform c t).1⟩ :: host.answers (host.perform c t).2 cs

/-- The state of a host after some calls. -/
def BrowserHost.after (host : BrowserHost σ) : σ → List BrowserCall → σ
  | t, [] => t
  | t, c :: cs => host.after (host.perform c t).2 cs

/-- The events of a step that is taken in a session. -/
def BrowserStep.events (host : BrowserHost σ) (m : BrowserStep σ α) (s : BrowserSession σ) :
    List BrowserEvent :=
  host.answers s.host ((m s).2.calls.drop s.calls.length)

/-- Calls in a row are answered in turn. -/
theorem BrowserHost.answers_append (host : BrowserHost σ) (t : σ) (cs ds : List BrowserCall) :
    host.answers t (cs ++ ds) = host.answers t cs ++ host.answers (host.after t cs) ds := by
  induction cs generalizing t with
  | nil => rfl
  | cons c cs ih => rw [List.cons_append, answers, ih, answers, after, List.cons_append]

/-- The state of a host after calls in a row. -/
theorem BrowserHost.after_append (host : BrowserHost σ) (t : σ) (cs ds : List BrowserCall) :
    host.after t (cs ++ ds) = host.after (host.after t cs) ds := by
  induction cs generalizing t with
  | nil => rfl
  | cons c cs ih => rw [List.cons_append, after, ih, after]

/-! ## Outcomes -/

/-- Whether a driver and a browser are held. -/
structure Held where
  driver : Bool
  browser : Bool
  deriving Repr, DecidableEq, Inhabited

/-- What a session holds. -/
def BrowserSession.held (s : BrowserSession σ) : Held := ⟨s.driver, s.browser⟩

/-- How a step comes out: its events, the notes that it leaves, its result, and what is held after
    it. -/
structure StepOutcome (α : Type) where
  events : List BrowserEvent
  notes : List LogEntry
  result : Except Failure α
  held : Held

/-- The failure that is left of one that a step has cleaned up after. -/
def afterCleanUp (e : Failure) : Except Failure Unit → Failure
  | .ok () => e
  | .error e' => e'

/-- A step that is taken in a session comes out in this way. -/
structure Runs (host : BrowserHost σ) (m : BrowserStep σ α) (s : BrowserSession σ)
    (o : StepOutcome α) : Prop where
  result : (m s).1 = o.result
  held : (m s).2.held = o.held
  log : (m s).2.log = s.log ++ o.notes
  calls : (m s).2.calls = s.calls ++ o.events.map (·.call)
  answers : host.answers s.host (o.events.map (·.call)) = o.events
  after : host.after s.host (o.events.map (·.call)) = (m s).2.host

namespace Runs

variable {host : BrowserHost σ} {m : BrowserStep σ α} {f : α → BrowserStep σ β}
  {s : BrowserSession σ}

/-- The events of a step are those of its outcome. -/
theorem events_eq {o : StepOutcome α} (h : Runs host m s o) : m.events host s = o.events := by
  rw [BrowserStep.events, h.calls, List.drop_left, h.answers]

/-- A step without calls and notes. -/
theorem silent {result : Except Failure α} {s' : BrowserSession σ} (hm : m s = (result, s'))
    (hcalls : s'.calls = s.calls) (hlog : s'.log = s.log) (hhost : s'.host = s.host) :
    Runs host m s ⟨[], [], result, s'.held⟩ where
  result := by rw [hm]
  held := by rw [hm]
  log := by rw [hm, hlog, List.append_nil]
  calls := by rw [hm, hcalls, List.map_nil, List.append_nil]
  answers := rfl
  after := by rw [hm, hhost]; rfl

theorem pure (a : α) {h : Held} (hs : s.held = h) : Runs host (Pure.pure a) s ⟨[], [], .ok a, h⟩ :=
  hs ▸ silent (pure_apply a s) rfl rfl rfl

/-- A step that only fails leaves no trace. -/
theorem throw (e : Failure) {h : Held} (hs : s.held = h) :
    Runs host (MonadExcept.throw e : BrowserStep σ α) s ⟨[], [], .error e, h⟩ :=
  hs ▸ silent (throw_apply e s) rfl rfl rfl

/-- A step that ends where another one does, with a result of its own. -/
theorem ends {m' : BrowserStep σ β} {es : List BrowserEvent} {ns : List LogEntry}
    {result : Except Failure α} {result' : Except Failure β} {h : Held}
    (hm : Runs host m s ⟨es, ns, result, h⟩) (hrun : m' s = (result', (m s).2)) :
    Runs host m' s ⟨es, ns, result', h⟩ where
  result := by rw [hrun]
  held := by rw [hrun, hm.held]
  log := by rw [hrun, hm.log]
  calls := by rw [hrun, hm.calls]
  answers := hm.answers
  after := by rw [hrun, hm.after]

/-- A step that goes on where another one ends. -/
theorem goesOn {f m' : BrowserStep σ β} {es es' : List BrowserEvent} {ns ns' : List LogEntry}
    {result : Except Failure α} {result' : Except Failure β} {h h' : Held}
    (hm : Runs host m s ⟨es, ns, result, h⟩) (hf : Runs host f (m s).2 ⟨es', ns', result', h'⟩)
    (hrun : m' s = f (m s).2) :
    Runs host m' s ⟨es ++ es', ns ++ ns', result', h'⟩ where
  result := by rw [hrun, hf.result]
  held := by rw [hrun, hf.held]
  log := by rw [hrun, hf.log, hm.log, List.append_assoc]
  calls := by rw [hrun, hf.calls, hm.calls, List.map_append, List.append_assoc]
  answers := by
    -- The host answers the later calls in the state in which the first step left it.
    rw [List.map_append, BrowserHost.answers_append, hm.answers, hm.after, hf.answers]
  after := by rw [hrun, List.map_append, BrowserHost.after_append, hm.after, hf.after]

/-- What follows a step that succeeded adds its own events and notes. -/
theorem bind {es es' : List BrowserEvent} {ns ns' : List LogEntry} {a : α}
    {result : Except Failure β} {h h' : Held} (hm : Runs host m s ⟨es, ns, .ok a, h⟩)
    (hf : Runs host (f a) (m s).2 ⟨es', ns', result, h'⟩) :
    Runs host (m >>= f) s ⟨es ++ es', ns ++ ns', result, h'⟩ := by
  have hs : m s = (.ok a, (m s).2) := Prod.ext hm.result rfl
  apply hm.goesOn hf
  rw [bind_apply, hs]

/-- What follows a step whatever it gave. -/
theorem andThen {m' : BrowserStep σ β} {es es' : List BrowserEvent} {ns ns' : List LogEntry} {a : α}
    {result : Except Failure β} {h h' : Held} (hm : Runs host m s ⟨es, ns, .ok a, h⟩)
    (hm' : Runs host m' (m s).2 ⟨es', ns', result, h'⟩) :
    Runs host (m >>= fun _ => m') s ⟨es ++ es', ns ++ ns', result, h'⟩ :=
  hm.bind hm'

/-- What follows a step without calls and notes of its own. -/
theorem andThenSilent {m' : BrowserStep σ β} {es : List BrowserEvent} {ns : List LogEntry} {a : α}
    {result : Except Failure β} {h h' : Held} (hm : Runs host m s ⟨es, ns, .ok a, h⟩)
    (hm' : Runs host m' (m s).2 ⟨[], [], result, h'⟩) :
    Runs host (m >>= fun _ => m') s ⟨es, ns, result, h'⟩ := by
  have hboth := hm.andThen hm'
  rwa [List.append_nil, List.append_nil] at hboth

/-- A step that failed is not followed by anything. -/
theorem bind_error {es : List BrowserEvent} {ns : List LogEntry} {e : Failure} {h : Held}
    (hm : Runs host m s ⟨es, ns, .error e, h⟩) :
    Runs host (m >>= f) s ⟨es, ns, .error e, h⟩ := by
  have hs : m s = (.error e, (m s).2) := Prod.ext hm.result rfl
  apply hm.ends
  rw [bind_apply, hs]

/-- A step that succeeds is not answered. -/
theorem tryCatch_ok {es : List BrowserEvent} {ns : List LogEntry} {a : α} {h : Held}
    (hm : Runs host m s ⟨es, ns, .ok a, h⟩) (answer : Failure → BrowserStep σ α) :
    Runs host (tryCatch m answer) s ⟨es, ns, .ok a, h⟩ := by
  have hs : m s = (.ok a, (m s).2) := Prod.ext hm.result rfl
  apply hm.ends
  rw [tryCatch_apply, hs]

/-- What answers a failure adds its own events and notes. -/
theorem tryCatch_error {answer : Failure → BrowserStep σ α} {es es' : List BrowserEvent}
    {ns ns' : List LogEntry} {e : Failure} {result : Except Failure α} {h h' : Held}
    (hm : Runs host m s ⟨es, ns, .error e, h⟩)
    (ha : Runs host (answer e) (m s).2 ⟨es', ns', result, h'⟩) :
    Runs host (tryCatch m answer) s ⟨es ++ es', ns ++ ns', result, h'⟩ := by
  have hs : m s = (.error e, (m s).2) := Prod.ext hm.result rfl
  apply hm.goesOn ha
  rw [tryCatch_apply, hs]

/-- A failure that is raised again after a step keeps its events and notes, and gives way to a
    failure of the step. -/
theorem thenThrow {m : BrowserStep σ Unit} {es : List BrowserEvent} {ns : List LogEntry}
    {result : Except Failure Unit} {h : Held} (hm : Runs host m s ⟨es, ns, result, h⟩)
    (e : Failure) :
    Runs host (m >>= fun _ => MonadExcept.throw e : BrowserStep σ α) s
      ⟨es, ns, .error (afterCleanUp e result), h⟩ := by
  have hs : m s = (result, (m s).2) := Prod.ext hm.result rfl
  apply hm.ends
  rw [bind_apply, hs]
  cases result <;> rfl

/-- A step that looks at the session first is taken as the step that it then is. -/
theorem get_bind {f : BrowserSession σ → BrowserStep σ β} {es : List BrowserEvent}
    {ns : List LogEntry} {result : Except Failure β} {h : Held}
    (hf : Runs host (f s) s ⟨es, ns, result, h⟩) :
    Runs host (get >>= f) s ⟨es, ns, result, h⟩ :=
  bind (silent (get_apply s) rfl rfl rfl) hf

end Runs

/-! ## Calls -/

/-- The result of a call that failed for a reason, or did not fail. -/
def callResult : Option String → Except Failure Unit
  | none => .ok ()
  | some reason => .error (.outside reason)

namespace BrowserStep

variable (host : BrowserHost σ) {s : BrowserSession σ} {h : Held}

theorem call_apply (c : BrowserCall) (s : BrowserSession σ) :
    (call host c) s = (callResult (failureOf (host.perform c s.host).1),
      { s with calls := s.calls ++ [c], host := (host.perform c s.host).2 }) := by
  rw [call]
  rcases host.perform c s.host with ⟨⟨⟩ | reason, t⟩ <;> rfl

/-- A call is the one event of its step. -/
theorem call_runs (c : BrowserCall) (hs : s.held = h) :
    ∃ failure, Runs host (call host c) s ⟨[⟨c, failure⟩], [], callResult failure, h⟩ := by
  refine ⟨failureOf (host.perform c s.host).1, ?_⟩
  subst hs
  -- All parts of the outcome are read off the call.
  constructor <;> simp only [call_apply]
  · rfl
  · rw [List.append_nil]
  · rfl
  · rfl
  · rfl

/-- Saying what is held makes no call. -/
theorem holdDriver_runs (held : Bool) (hs : s.held = h) :
    Runs host (holdDriver held) s ⟨[], [], .ok (), ⟨held, h.browser⟩⟩ := by
  subst hs
  exact .silent (show (holdDriver held) s = (.ok (), { s with driver := held }) from rfl) rfl rfl rfl

theorem holdBrowser_runs (held : Bool) (hs : s.held = h) :
    Runs host (holdBrowser held) s ⟨[], [], .ok (), ⟨h.driver, held⟩⟩ := by
  subst hs
  exact .silent (show (holdBrowser held) s = (.ok (), { s with browser := held }) from rfl) rfl rfl rfl

theorem note_runs (entry : LogEntry) (hs : s.held = h) :
    Runs host (note entry) s ⟨[], [entry], .ok (), h⟩ where
  result := rfl
  held := hs
  log := rfl
  calls := by rw [List.map_nil, List.append_nil]; rfl
  answers := rfl
  after := rfl

end BrowserStep

end FormPress
