/-
  FormPress.Settings.Read

  Reading settings out of data values.
-/
import FormPress.Record.Field
import FormPress.Settings.Basic

namespace FormPress

/-- A path, given as a text. -/
def Read.path : Value → Check Path
  | .text s => .fits (.ofText s)
  | _ => .misfit .notPath

/-- Reads the settings of the browser. -/
def BrowserSettings.read (f : Fields) : Check BrowserSettings :=
  let d : BrowserSettings := {}
  BrowserSettings.mk <$> f.optional "engine" Read.text d.engine
    <*> f.optional "browser" Read.text d.browser
    <*> f.optional "wait_until" Read.text d.waitUntil
    <*> f.optional "timeout_ms" Read.whole d.timeoutMs

/-- Reads paper and margins. -/
def PageSettings.read (f : Fields) : Check PageSettings :=
  let d : PageSettings := {}
  PageSettings.mk <$> f.optional "paper_format" Read.text d.paperFormat
    <*> f.optional "body_margin_top" Read.text d.bodyTop
    <*> f.optional "body_margin_right" Read.text d.bodyRight
    <*> f.optional "body_margin_bottom" Read.text d.bodyBottom
    <*> f.optional "body_margin_left" Read.text d.bodyLeft
    <*> f.optional "cover_margin" Read.text d.coverMargin

/-- Reads where logos are found. -/
def AssetSettings.read (f : Fields) : Check AssetSettings :=
  let d : AssetSettings := {}
  AssetSettings.mk <$> f.optional "assets_dir" Read.path d.folder
    <*> f.optional "crest_candidates" Read.texts d.crestNames
    <*> f.optional "text_logo" Read.text d.textLogo

/-- Reads what is noted. -/
def LogSettings.read (f : Fields) : Check LogSettings :=
  let d : LogSettings := {}
  LogSettings.mk <$> f.optional "log_level" Read.text d.level
    <*> f.optional "log_format" Read.text d.format

namespace Settings

/-- The names of the settings. -/
def fieldNames : List String := ["profile_path", "pdf_backend", "page_layout", "assets", "logging"]

/-- A fault for every field that names no setting. -/
def strangers (f : Fields) : Check Unit :=
  let strange := f.filter fun p => !fieldNames.any fun name => (Scalar.text name).same p.1
  if strange.isEmpty then .fits ()
  else .faults (strange.map fun p => ⟨[.field p.1.display], .unexpected⟩)

/-- Reads settings. Fields that name no setting do not fit. -/
def read (f : Fields) : Check Settings :=
  (fun profilePath browser page assets log (_ : Unit) =>
      Settings.mk profilePath browser page assets log)
    <$> f.optional "profile_path" (Read.nullable Read.path) none
    <*> f.optional "pdf_backend" (Read.record BrowserSettings.read) {}
    <*> f.optional "page_layout" (Read.record PageSettings.read) {}
    <*> f.optional "assets" (Read.record AssetSettings.read) {}
    <*> f.optional "logging" (Read.record LogSettings.read) {}
    <*> strangers f

end Settings

end FormPress
