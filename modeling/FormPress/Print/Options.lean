/-
  FormPress.Print.Options

  How one pass is printed: paper, margins, and the running header and footer.
-/
import FormPress.Record.Field
import FormPress.Settings.Basic

namespace FormPress

/-- The options of one pass. -/
structure PrintOptions where
  label : String
  paperFormat : String := "A4"
  margins : Margins := []
  printsBackground : Bool := true
  showsHeaderFooter : Bool := false
  header : String := ""
  footer : String := ""
  deriving Repr, DecidableEq, Inhabited

/-- Reads the options of a pass. -/
def PrintOptions.read (f : Fields) : Check PrintOptions :=
  let d : PrintOptions := ⟨"", "A4", [], true, false, "", ""⟩
  PrintOptions.mk <$> f.required "label" Read.text
    <*> f.optional "paper_format" Read.text d.paperFormat
    <*> f.optional "margin" (Read.entriesOf Read.text) d.margins
    <*> f.optional "print_background" Read.truth d.printsBackground
    <*> f.optional "display_header_footer" Read.truth d.showsHeaderFooter
    <*> f.optional "header_template" Read.text d.header
    <*> f.optional "footer_template" Read.text d.footer

end FormPress
