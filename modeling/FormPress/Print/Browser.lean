/-
  FormPress.Print.Browser

  Printing with a browser. A session starts a driver and launches a browser of
  the driver when they are first needed, opens a tab for each pass and closes it
  afterwards, and keeps the list of all calls made to them. Every call may fail.
-/
import FormPress.Print.Backend

namespace FormPress

/-! ## Calls -/

/-- A call to the driver, the browser or a tab. -/
inductive BrowserCall where
  | start
  | launch (browser : String)
  | newTab
  | load (html waitUntil : String) (timeoutMs : Int)
  | print (options : PrintOptions)
  | closeTab
  | closeBrowser
  | stop
  deriving Repr, DecidableEq, Inhabited

/-- What answers calls: a call succeeds or fails with a reason, and printing gives pages. -/
structure BrowserHost (σ : Type) where
  perform : BrowserCall → σ → Except String Unit × σ
  printed : σ → Pdf
  /-- the bytes as which a joined document is saved, which may tell of the moment -/
  saved : σ → Pdf → ByteArray := fun _ _ => .empty

/-- The browsers that a driver knows. -/
def knownBrowsers : List String := ["chromium", "firefox", "webkit"]

/-! ## Sessions -/

/-- What a session holds, the calls and notes so far, and the state of the host. -/
structure BrowserSession (σ : Type) where
  driver : Bool
  browser : Bool
  calls : List BrowserCall
  log : List LogEntry
  host : σ
  deriving Inhabited

/-- A session that holds nothing. -/
def BrowserSession.fresh {σ : Type} (host : σ) : BrowserSession σ := ⟨false, false, [], [], host⟩

/-- A step of a session, which fails with a reason or goes on. -/
abbrev BrowserStep (σ α : Type) := ExceptT Failure (StateM (BrowserSession σ)) α

namespace BrowserStep

variable {σ α : Type}

/-- Makes a call and keeps it. -/
def call (host : BrowserHost σ) (c : BrowserCall) : BrowserStep σ Unit := fun s =>
  let (result, after) := host.perform c s.host
  let s' := { s with calls := s.calls ++ [c], host := after }
  match result with
  | .ok () => (.ok (), s')
  | .error reason => (.error (.outside reason), s')

/-- Says whether a driver is held. -/
def holdDriver (held : Bool) : BrowserStep σ Unit := fun s => (.ok (), { s with driver := held })

/-- Says whether a browser is held. -/
def holdBrowser (held : Bool) : BrowserStep σ Unit := fun s => (.ok (), { s with browser := held })

/-- Leaves a note. -/
def note (entry : LogEntry) : BrowserStep σ Unit := fun s =>
  (.ok (), { s with log := s.log ++ [entry] })

/-- Lets go of what is held: first the browser, then the driver. A failure ends it, and what has
    not been let go by then is still held. -/
def close (host : BrowserHost σ) : BrowserStep σ Unit := do
  if (← get).browser then
    call host .closeBrowser
    holdBrowser false
  if (← get).driver then
    call host .stop
    holdDriver false

/-- Starts a driver and launches a browser. -/
def launch (host : BrowserHost σ) (browser : String) : BrowserStep σ Unit := do
  call host .start
  holdDriver true
  if knownBrowsers.contains browser then
    call host (.launch browser)
    holdBrowser true
  else throw (.outside ("no browser " ++ browser))

/-- Makes sure that a browser is held. After a failure everything is let go again. -/
def openBrowser (host : BrowserHost σ) (settings : BrowserSettings) : BrowserStep σ Unit := do
  if (← get).browser then return
  try launch host settings.browser
  catch e =>
    close host
    throw (.engine (.render (.start e.message)))

/-- Closes a tab; a failure is only noted. -/
def closeTab (host : BrowserHost σ) (label : String) : BrowserStep σ Unit := do
  try call host .closeTab
  catch e => note (.warning ("页面关闭失败 [" ++ label ++ "]: " ++ e.message))

/-- Loads markup into a tab and prints it. -/
def printTab (host : BrowserHost σ) (settings : BrowserSettings) (html : String)
    (options : PrintOptions) : BrowserStep σ Pdf := do
  call host (.load html settings.waitUntil settings.timeoutMs)
  call host (.print options)
  return host.printed (← get).host

/-- Prints a pass in a tab of its own, which is closed whether or not printing succeeds. -/
def renderPass (host : BrowserHost σ) (settings : BrowserSettings) (html : String)
    (options : PrintOptions) : BrowserStep σ PageRange := do
  openBrowser host settings
  call host .newTab
  let pdf ←
    try printTab host settings html options
    catch e =>
      closeTab host options.label
      throw (.engine (.render (.pass options.label e.message)))
  closeTab host options.label
  let count ← (pdf.count : Except Failure Nat)
  return ⟨options.label, pdf, count⟩

/-- Takes a step with the browser open. Afterwards everything is let go, whether or not the step
    succeeds. -/
def within (host : BrowserHost σ) (settings : BrowserSettings) (body : BrowserStep σ α) :
    BrowserStep σ α := do
  openBrowser host settings
  let a ←
    try body
    catch e =>
      close host
      throw e
  close host
  return a

/-- Opens the browser and closes it again. -/
def openAndClose (host : BrowserHost σ) (settings : BrowserSettings) : BrowserStep σ Unit :=
  within host settings (pure ())

end BrowserStep

/-- The backend that prints with a browser. -/
def BrowserHost.backend {σ : Type} (host : BrowserHost σ) (settings : BrowserSettings) :
    Backend (BrowserSession σ) where
  print html options session :=
    let (result, after) := (BrowserStep.renderPass host settings html options).run.run session
    { result := result
      log := after.log.drop session.log.length
      state := after }

end FormPress
