/-
  FormPress.Settings.File

  Settings from a file. A setting is given plainly or as an object with a default
  and a description. Relative paths are seen from the folder of the file. The
  last settings read stay current until they are read again (`CurrentSettings`).
-/
import FormPress.Data.Yaml.Read
import FormPress.Settings.Environment

namespace FormPress

/-! ## Data files -/

/-- Whether something stands at a path. -/
def Files.holds (files : Files) (path : Path) : Except Failure Bool :=
  (files.has path).mapError (Failure.file path)

/-- The value that a data file holds; one that is empty, or does not count as given, is an empty
    object. Collections that hold themselves are unrolled for some levels. -/
def Files.readYaml (files : Files) (path : Path) (levels : Nat := 8) : Except Failure Value :=
  match files.readText path with
  | .error fault => .error (.file path fault)
  | .ok content =>
    match Yaml.read content levels with
    | .ok v => .ok (v.orElse (.object []))
    | .error fault => .error (.data .yaml fault)

/-- The fields of an object, which has to be one for `part` to be asked of it. -/
def Value.partsFor (part : String) : Value → Except Failure Fields
  | .object fields => .ok fields
  | v => .error (.noPart v.kindName part)

/-- The fields, if all their keys are names. -/
def Fields.named (fields : Fields) : Except Failure Fields :=
  if fields.all fun f => match f.1 with | .text _ => true | _ => false then .ok fields
  else .error (.misuse .fieldName)

/-! ## Sections -/

/-- The plain values of a section: of an object its default, if it has one. -/
def plainFields : Fields → Fields
  | [] => []
  | (k, .object inner) :: rest =>
    match Fields.get? inner "default" with
    | some v => (k, v) :: plainFields rest
    | none => plainFields rest
  | (k, v) :: rest => (k, v) :: plainFields rest

/-- The plain values of a section of the options. -/
def optionFields (options : Value) (name : String) : Except Failure Fields := do
  let all ← options.partsFor "get"
  let fields ← ((Fields.get all name).orElse (.object [])).partsFor "items"
  Fields.named (plainFields fields)

namespace Settings

/-- Reads one section of the options. -/
def readSection {α : Type} (options : Value) (name : String) (kind : RecordKind)
    (read : Fields → Check α) : Except Failure α := do
  let fields ← optionFields options name
  (read fields).orFail kind

/-- A path seen from the folder of the settings, if it is relative. -/
def seenFrom (base folder path : Path) : Except Failure Path :=
  let full := folder.join path
  if path.absolute then .ok path
  else if full.isImpossible then .error (.file full .impossible)
  else if Text.isUnnamable full.text then .error (.file full .halfCharacters)
  else .ok (Path.resolve base full)

/-- The path of the profile that a file gives, if it does. -/
def filedProfile (v : Value) : Except Failure (Option Path) :=
  if !v.truthy then .ok none
  else
    match v with
    | .text s => .ok (some (.ofText s))
    | v => .error (.misuse (.asPath v.kindName))

/-- The settings that a file's value gives; the environment has a say in the profile alone. -/
def ofValue (base : Path) (env : Environment) (folder : Path) (v : Value) :
    Except Failure Settings := do
  let all ← v.partsFor "get"
  let options := (Fields.get? all "runtime_options").getD (.object [])
  let browser ← readSection options "pdf_backend" .browserSettings BrowserSettings.read
  let page ← readSection options "page_layout" .pageSettings PageSettings.read
  let assets ← readSection options "assets" .assetSettings AssetSettings.read
  let log ← readSection options "logging" .logSettings LogSettings.read
  let _ ← env.fields {}
  let filed ← filedProfile (Fields.get all "profile_path")
  let profile := filed <|> (env.profilePath? {}).map Path.ofText
  let assetFolder ← seenFrom base folder assets.folder
  let profile ← profile.mapM (seenFrom base folder)
  return {
    profilePath := profile
    browser := browser
    page := page
    assets := { assets with folder := assetFolder }
    log := log }

/-- The settings from a file; without it, those of the environment. -/
def ofFile (files : Files) (env : Environment) (path : Path) : Except Failure Settings := do
  if ← files.holds path then ofValue files.base env path.parent (← files.readYaml path)
  else ofFields env []

/-- The path of the settings where none is given. -/
def standardPath : Path := .ofText "config/formdoc_runtime.yaml"

end Settings

/-! ## Current settings -/

/-- The settings read last. -/
abbrev CurrentSettings := Option Settings

namespace CurrentSettings

/-- The current settings, read from the standard path if there are none yet. -/
def get (files : Files) (env : Environment) (current : CurrentSettings) :
    Except Failure Settings × CurrentSettings :=
  match current with
  | some s => (.ok s, some s)
  | none =>
    match Settings.ofFile files env Settings.standardPath with
    | .ok s => (.ok s, some s)
    | .error e => (.error e, none)

/-- Reads the settings again, from the given path or the standard one. A failure leaves the
    current ones. -/
def reload (files : Files) (env : Environment) (path : Option Path) (current : CurrentSettings) :
    Except Failure Settings × CurrentSettings :=
  match Settings.ofFile files env (path.getD Settings.standardPath) with
  | .ok s => (.ok s, some s)
  | .error e => (.error e, current)

end CurrentSettings

end FormPress
