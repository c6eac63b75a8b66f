/-
  FormPress.Settings.Write

  Settings as a data value, with all their fields.
-/
import FormPress.Data.Print
import FormPress.Settings.Basic

namespace FormPress

open Value (maybe record texts)

/-- A path as a value. -/
def Path.toValue (p : Path) : Value := .text p.text

/-- Margins as a value. -/
def Margins.toValue (m : Margins) : Value := record (m.map fun side => (side.1, .text side.2))

/-- The settings of the browser as a value. -/
def BrowserSettings.toValue (s : BrowserSettings) : Value := record [
  ("engine", .text s.engine), ("browser", .text s.browser), ("wait_until", .text s.waitUntil),
  ("timeout_ms", .int s.timeoutMs)]

/-- Paper and margins as a value. -/
def PageSettings.toValue (s : PageSettings) : Value := record [
  ("paper_format", .text s.paperFormat), ("body_margin_top", .text s.bodyTop),
  ("body_margin_right", .text s.bodyRight), ("body_margin_bottom", .text s.bodyBottom),
  ("body_margin_left", .text s.bodyLeft), ("cover_margin", .text s.coverMargin)]

/-- Where logos are found as a value. -/
def AssetSettings.toValue (s : AssetSettings) : Value := record [
  ("assets_dir", s.folder.toValue), ("crest_candidates", texts s.crestNames),
  ("text_logo", .text s.textLogo)]

/-- What is noted as a value. -/
def LogSettings.toValue (s : LogSettings) : Value := record [
  ("log_level", .text s.level), ("log_format", .text s.format)]

/-- Settings as a value. -/
def Settings.toValue (s : Settings) : Value := record [
  ("profile_path", maybe Path.toValue s.profilePath), ("pdf_backend", s.browser.toValue),
  ("page_layout", s.page.toValue), ("assets", s.assets.toValue), ("logging", s.log.toValue)]

end FormPress
