/-
  FormPress.Settings.Basic

  The settings of a run: the profile to use, the browser that prints, paper and
  margins, where logos are found, and what is noted. Every setting has a default.
-/
import FormPress.Files.Path

namespace FormPress

/-- The browser that prints pages. -/
structure BrowserSettings where
  engine : String := "playwright"
  browser : String := "chromium"
  waitUntil : String := "networkidle"
  timeoutMs : Int := 60000
  deriving Repr, DecidableEq, Inhabited

/-- Paper and margins; those of the body leave room for the running header and footer. -/
structure PageSettings where
  paperFormat : String := "A4"
  bodyTop : String := "190px"
  bodyRight : String := "15mm"
  bodyBottom : String := "70px"
  bodyLeft : String := "15mm"
  coverMargin : String := "0"
  deriving Repr, DecidableEq, Inhabited

/-- Where logos are found: a folder, the names of the crest in order of preference, and the name
    of the text logo. -/
structure AssetSettings where
  folder : Path := .ofText "public"
  crestNames : List String := ["logo-crest.png", "logo.jpeg", "logo.jpg", "logo.png"]
  textLogo : String := "logo-text.png"
  deriving Repr, DecidableEq, Inhabited

/-- What is noted, and how. -/
structure LogSettings where
  level : String := "INFO"
  format : String := "%(asctime)s %(levelname)s [%(name)s] %(message)s"
  deriving Repr, DecidableEq, Inhabited

/-- The settings of a run. -/
structure Settings where
  profilePath : Option Path := none
  browser : BrowserSettings := {}
  page : PageSettings := {}
  assets : AssetSettings := {}
  log : LogSettings := {}
  deriving Repr, DecidableEq, Inhabited

/-! ## Margins -/

/-- Margins by side. -/
abbrev Margins := List (String × String)

namespace PageSettings

/-- The margins of the body. -/
def bodyMargins (p : PageSettings) : Margins :=
  [("top", p.bodyTop), ("right", p.bodyRight), ("bottom", p.bodyBottom), ("left", p.bodyLeft)]

/-- The margins of the cover, the same on all sides. -/
def coverMargins (p : PageSettings) : Margins :=
  ["top", "right", "bottom", "left"].map fun side => (side, p.coverMargin)

end PageSettings

end FormPress
