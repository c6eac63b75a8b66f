/-
  FormPress.Document.Style

  The style sheet of the printed pages: groups of rules, a rule on a line and a
  blank line between groups.
-/

namespace FormPress

/-- A rule: what it applies to, and the properties it sets. -/
structure StyleRule where
  selector : String
  properties : List (String × String)

/-- A rule on one line. -/
def StyleRule.text (r : StyleRule) : String :=
  r.selector ++ " \x7b " ++ String.join (r.properties.map fun p => p.1 ++ ": " ++ p.2 ++ "; ") ++ "\x7d"

/-- The rules of the printed pages. -/
def styleGroups : List (List StyleRule) := [
  [
    ⟨"@page", [("size", "A4")]⟩,
    ⟨"body", [("font-family", "'Calibri', 'Calibri Light', Arial, Helvetica, sans-serif"),
      ("font-size", "11pt"), ("margin", "0"), ("padding", "0"), ("color", "#1f2937"),
      ("box-sizing", "border-box")]⟩,
    ⟨"h3", [("font-size", "10pt"), ("font-weight", "bold"), ("margin", "12px 0 6px 0"),
      ("color", "#1f2937")]⟩,
    ⟨"p", [("orphans", "2"), ("widows", "2")]⟩,
    ⟨"table", [("width", "100%"), ("border-collapse", "collapse"), ("font-size", "8pt"),
      ("margin-bottom", "12px")]⟩,
    ⟨"th, td", [("border", "1px solid #000"), ("padding", "10px 12px"), ("vertical-align", "middle"),
      ("line-height", "1.35")]⟩,
    ⟨"th", [("background", "#595959"), ("color", "#fff"), ("font-weight", "bold")]⟩],
  [
    ⟨".step-page", [("page-break-after", "always"), ("padding-top", "24px")]⟩,
    ⟨".step-page:last-child", [("page-break-after", "auto")]⟩,
    ⟨".section-description", [("margin", "0 0 12px 0"), ("line-height", "1.5")]⟩,
    ⟨".instruction-block", [("margin", "0 0 12px 0"), ("line-height", "1.5")]⟩],
  [
    ⟨".section-table", [("width", "100%"), ("border-collapse", "collapse"), ("font-size", "11pt"),
      ("margin", "0 0 12px 0"), ("border", "1px solid #000"), ("page-break-inside", "auto")]⟩,
    ⟨".sub-section-header", [("background", "#595959 !important"), ("color", "#fff !important"),
      ("font-weight", "bold"), ("font-size", "9pt")]⟩,
    ⟨".label-cell", [("width", "35%"), ("background", "#F0F4FA"), ("font-weight", "600"),
      ("color", "#374151")]⟩,
    ⟨".value-cell", [("width", "65%"), ("background", "#F0F4FA"), ("color", "#1f2937")]⟩,
    ⟨".participant-table .label-cell", [("width", "25%"), ("background", "#595959 !important"),
      ("color", "#fff !important")]⟩,
    ⟨".participant-table .value-cell", [("width", "25%"), ("background", "#fff")]⟩],
  [
    ⟨".question", [("margin", "12px 0")]⟩,
    ⟨".question-label", [("font-weight", "bold"), ("margin-bottom", "4px"), ("line-height", "1.4")]⟩,
    ⟨".answer-box", [("border", "1px solid #333"), ("min-height", "24px"), ("padding", "6px 8px"),
      ("background", "#fff")]⟩,
    ⟨".answer-box-large", [("min-height", "80px")]⟩,
    ⟨".signature-img", [("max-width", "150px"), ("max-height", "60px"), ("display", "block")]⟩],
  [
    ⟨".likert-table-with-comments", [("page-break-inside", "avoid"), ("margin-bottom", "12px")]⟩,
    ⟨".likert-page-break", [("page-break-before", "always")]⟩,
    ⟨".likert-table", [("table-layout", "fixed"), ("font-size", "11pt"), ("border", "1px solid #000")]⟩,
    ⟨".likert-table th, .likert-table td", [("padding", "6px 8px"), ("line-height", "1.25")]⟩,
    ⟨".likert-header", [("background", "#595959 !important"), ("color", "#fff !important")]⟩,
    ⟨".likert-no", [("width", "4%"), ("text-align", "center"), ("font-weight", "600")]⟩,
    ⟨".likert-criteria", [("width", "50%"), ("font-weight", "600"), ("word-wrap", "break-word")]⟩,
    ⟨".likert-scale", [("width", "9.2%"), ("height", "100px"), ("padding", "6px 3px"),
      ("font-size", "9pt")]⟩,
    ⟨".likert-scale-inner span", [("display", "inline-block"), ("transform", "rotate(-90deg)"),
      ("white-space", "nowrap")]⟩,
    ⟨".likert-section-row td", [("background", "#595959 !important"), ("color", "#fff !important"),
      ("font-weight", "bold")]⟩,
    ⟨".likert-table tbody .likert-no, .likert-table tbody .likert-criteria", [
      ("background", "#e5e7eb !important")]⟩,
    ⟨".likert-table tbody .row-alt .likert-no, .likert-table tbody .row-alt .likert-criteria", [
      ("background", "#f3f4f6 !important")]⟩,
    ⟨".likert-radio", [("text-align", "center"), ("background", "#fff !important")]⟩,
    ⟨".radio-circle", [("display", "inline-block"), ("width", "12px"), ("height", "12px"),
      ("border", "1.5px solid #4b5563"), ("border-radius", "50%")]⟩,
    ⟨".radio-circle.filled", [("background", "#1f2937"), ("border-color", "#1f2937")]⟩,
    ⟨".likert-comments", [("margin-top", "8px"), ("font-size", "11pt")]⟩,
    ⟨".likert-comments .question-label", [("font-weight", "600")]⟩,
    ⟨".learner-eval-grey-bar", [("width", "100%"), ("height", "40px"),
      ("background", "#595959 !important"), ("margin-top", "20px"), ("print-color-adjust", "exact")]⟩],
  [
    ⟨".grid-table th, .grid-table td", [("border", "1px solid #000 !important"),
      ("background", "transparent !important"), ("color", "#1f2937")]⟩],
  [
    ⟨".assessment-submission-section, .declarations-section", [("border", "1px solid #000"),
      ("padding", "12px"), ("background", "#fff"), ("margin-bottom", "12px")]⟩,
    ⟨".assessment-submission-grid", [("display", "grid"), ("grid-template-columns", "1fr 1fr"),
      ("gap", "12px 24px")]⟩,
    ⟨".assessment-submission-item", [("display", "inline-flex"), ("align-items", "center"),
      ("gap", "8px")]⟩,
    ⟨".assessment-submission-item.span-full", [("grid-column", "1 / -1")]⟩,
    ⟨".cb", [("width", "18px"), ("height", "18px"), ("border", "1px solid #000"),
      ("display", "inline-flex"), ("align-items", "center"), ("justify-content", "center"),
      ("font-size", "12px"), ("flex-shrink", "0")]⟩,
    ⟨".cb.checked", [("background", "#1f2937"), ("color", "#fff")]⟩,
    ⟨".cb-inline-input", [("border-bottom", "1px solid #333"), ("min-width", "120px"), ("flex", "1"),
      ("padding", "2px 4px"), ("font-size", "9pt"), ("display", "inline-block")]⟩,
    ⟨".assessment-submission-other-block", [("grid-column", "1 / -1"), ("margin-top", "8px"),
      ("text-align", "center")]⟩,
    ⟨".other-underline", [("display", "block"), ("margin", "0 auto"),
      ("border-bottom", "1px solid #333"), ("min-width", "200px"), ("min-height", "18px")]⟩,
    ⟨".assessment-submission-hint", [("font-size", "8pt"), ("font-style", "italic"),
      ("color", "#6b7280"), ("margin-top", "4px")]⟩],
  [
    ⟨".declaration-checkbox", [("display", "flex"), ("align-items", "flex-start"), ("gap", "10px")]⟩,
    ⟨".declarations-section .question-label", [("font-style", "italic"), ("font-weight", "500")]⟩,
    ⟨".decl-heading-bar", [("font-size", "10pt"), ("font-weight", "bold"), ("margin", "12px 0 6px 0"),
      ("border-left", "4px solid #9ca3af"), ("padding-left", "8px")]⟩,
    ⟨".decl-sig-heading", [("font-size", "10pt"), ("font-weight", "bold"), ("margin", "12px 0 6px 0")]⟩,
    ⟨".decl-table", [("font-size", "9pt"), ("border", "1px solid #000"),
      ("page-break-inside", "avoid")]⟩,
    ⟨".decl-table .decl-label", [("width", "35%"), ("background", "#d9d9d9"), ("color", "#000"),
      ("font-weight", "bold")]⟩,
    ⟨".decl-table .decl-value", [("background", "#fff")]⟩,
    ⟨".decl-sig-value", [("color", "#2563eb"), ("font-style", "italic"),
      ("text-decoration", "underline")]⟩,
    ⟨".decl-other-header", [("background", "#595959 !important"), ("color", "#fff !important"),
      ("font-weight", "bold")]⟩,
    ⟨".decl-office-label", [("font-style", "italic")]⟩],
  [
    ⟨".reasonable-adjustment-section", [("border", "1px solid #000"), ("margin-bottom", "12px")]⟩,
    ⟨".reasonable-adjustment-header", [("background", "#595959 !important"),
      ("color", "#fff !important"), ("font-weight", "bold"), ("font-size", "9pt"),
      ("padding", "10px 12px")]⟩,
    ⟨".reasonable-adjustment-body", [("padding", "12px"), ("background", "#fff")]⟩,
    ⟨".reasonable-adjustment-radio", [("display", "flex"), ("align-items", "center"), ("gap", "8px"),
      ("margin", "6px 0")]⟩,
    ⟨".reasonable-adjustment-note", [("font-style", "italic")]⟩,
    ⟨".reasonable-adjustment-sig-row", [("display", "flex"), ("align-items", "center"),
      ("gap", "12px"), ("margin-top", "16px")]⟩,
    ⟨".reasonable-adjustment-sig-line, .reasonable-adjustment-date-line", [("flex", "1"),
      ("min-width", "100px"), ("border-bottom", "1px solid #333"), ("min-height", "20px")]⟩],
  [
    ⟨".appendix-page", [("page-break-before", "always")]⟩,
    ⟨".appendix-title-bar, .appendix-section-bar", [("background", "#595959 !important"),
      ("color", "#fff !important"), ("font-weight", "bold"), ("padding", "8px 12px"),
      ("margin", "12px 0 6px 0"), ("print-color-adjust", "exact")]⟩,
    ⟨".appendix-title-bar", [("font-size", "11pt"), ("margin-top", "0")]⟩,
    ⟨".appendix-section-bar", [("font-size", "9pt")]⟩,
    ⟨".appendix-matrix-table", [("font-size", "8pt")]⟩,
    ⟨".appendix-matrix-table td", [("vertical-align", "top"), ("padding", "6px 8px")]⟩,
    ⟨".appendix-cell-item", [("display", "flex"), ("align-items", "flex-start"), ("gap", "4px"),
      ("margin", "2px 0")]⟩,
    ⟨".appendix-cb", [("width", "10px"), ("height", "10px"), ("border", "1px solid #000"),
      ("display", "inline-block"), ("flex-shrink", "0")]⟩,
    ⟨".appendix-b-intro", [("page-break-inside", "avoid")]⟩],
  [
    ⟨".intro-page .intro-title", [("font-size", "18pt"), ("font-weight", "bold"),
      ("margin", "0 0 16px 0")]⟩,
    ⟨".intro-page h3", [("font-size", "12pt"), ("margin", "16px 0 8px 0")]⟩,
    ⟨".intro-page h4", [("font-size", "10pt"), ("margin", "12px 0 6px 0")]⟩,
    ⟨".intro-page p, .intro-page li", [("line-height", "1.5")]⟩],
  [
    ⟨".cover-page", [("position", "relative"), ("width", "210mm"), ("height", "297mm"),
      ("overflow", "hidden"), ("background", "#b0b8c0"), ("print-color-adjust", "exact"),
      ("margin", "0")]⟩,
    ⟨".cover-image", [("position", "absolute"), ("top", "0"), ("left", "0"), ("right", "0"),
      ("height", "260mm"), ("background", "linear-gradient(180deg, #5a6a7a 0%, #3d4a5a 100%)"),
      ("background-size", "cover"), ("background-position", "center"), ("z-index", "1")]⟩,
    ⟨".cover-logo", [("position", "absolute"), ("top", "12mm"), ("left", "12mm"), ("z-index", "6")]⟩,
    ⟨".cover-logo img", [("max-height", "85px"), ("max-width", "150px"), ("display", "block")]⟩,
    ⟨".cover-band", [("position", "absolute"), ("left", "0"), ("right", "0"), ("top", "114mm"),
      ("height", "18mm"), ("background", "#9ca3af"), ("border-top", "2px solid #fff"),
      ("border-bottom", "2px solid #fff"), ("display", "flex"), ("align-items", "center"),
      ("justify-content", "center"), ("z-index", "5")]⟩,
    ⟨".cover-band h1", [("margin", "0"), ("font-size", "22pt"), ("font-weight", "800"),
      ("color", "#1a3a5c"), ("letter-spacing", "0.14em")]⟩,
    ⟨".cover-wave", [("position", "absolute"), ("left", "0"), ("right", "0"), ("top", "155mm"),
      ("height", "55mm"), ("z-index", "4")]⟩,
    ⟨".cover-wave svg", [("width", "100%"), ("height", "100%"), ("display", "block")]⟩,
    ⟨".cover-grey", [("position", "absolute"), ("left", "0"), ("right", "0"), ("top", "210mm"),
      ("bottom", "0"), ("background", "#b0b8c0"), ("z-index", "2")]⟩,
    ⟨".cover-unit", [("position", "absolute"), ("left", "15mm"), ("right", "15mm"), ("top", "225mm"),
      ("text-align", "center"), ("z-index", "7")]⟩,
    ⟨".cover-unit-text", [("font-size", "17pt"), ("font-weight", "800"), ("color", "#fff"),
      ("line-height", "1.2")]⟩,
    ⟨".cover-student-box", [("position", "absolute"), ("left", "15mm"), ("right", "15mm"),
      ("bottom", "18mm"), ("background", "#fff"), ("border", "1px solid #000"), ("z-index", "7")]⟩,
    ⟨".cover-student-table", [("table-layout", "fixed"), ("font-size", "11pt"), ("margin", "0")]⟩,
    ⟨".cover-student-table td", [("padding", "6px 10px")]⟩,
    ⟨".cover-student-label", [("width", "42mm"), ("background", "#e5e7eb"), ("font-weight", "800")]⟩,
    ⟨".cover-student-line", [("display", "inline-block"), ("width", "100%"),
      ("border-bottom", "1px solid #000"), ("min-height", "14px")]⟩]]

/-- The style sheet of the printed pages. -/
def styleSheet : String :=
  "\n\n".intercalate (styleGroups.map fun rules => "\n".intercalate (rules.map StyleRule.text))

end FormPress
