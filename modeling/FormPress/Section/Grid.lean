/-
  FormPress.Section.Grid

  Grid tables: a row for each row of the section's questions, with the columns
  that the first question's settings name. A cell shows the row's help or what
  the answer holds under the row and the column.
-/
import FormPress.Section.Table

namespace FormPress

/-- A row of a grid table. -/
structure GridRow where
  label : String
  image : Option String
  help : String
  cells : List String
  deriving Repr, DecidableEq, Inhabited

/-- A grid table. -/
structure GridView where
  layout : String
  header : List String
  rows : List GridRow
  deriving Repr, DecidableEq, Inhabited

namespace GridView

/-- Whether the label of a row gives way to its picture. -/
def split (v : GridView) : Bool := v.layout == "split" || v.layout == "polygon"

/-- Whether the table has no column for pictures. -/
def noImage (v : GridView) : Bool := v.layout == "no_image"

/-- What stands in a cell without content. -/
def emptyCell : String := "—"

/-- The display form of a setting, or a text in its place where it is not given. -/
def settingOr (settings : Fields) (name default : String) : String :=
  ((settings.get name).orElse (.text default)).display

/-- The titles of the columns. -/
def columnsOf (settings : Fields) : List String :=
  match settings.get "columns" with
  | .list items => items.map Value.display
  | _ => ["Column 1", "Column 2"]

/-- Whether a column shows the help of its row instead of an answer. -/
def isQuestionColumn (settings : Fields) (index : Nat) : Bool :=
  match settings.get "columnTypes" with
  | .list kinds =>
    match kinds[index]? with
    | some (.text s) => s == "question"
    | _ => false
  | _ => false

/-- The headers in front of the columns. -/
def leadOf (settings : Fields) (layout : String) : List String :=
  let (first, second) :=
    if layout == "no_image" then ("Item", "Description")
    else if layout == "polygon" then ("Polygon Name", "Polygon Shape")
    else ("Name", "Image")
  let first := settingOr settings "firstColumnLabel" first
  let second := settingOr settings "secondColumnLabel" second
  if layout == "split" || layout == "polygon" then [second]
  else if layout == "no_image" then [first, second]
  else ["Shape"]

/-- The name under which the answer of a row holds a column. -/
def cellName (row : Int) (column : Nat) : String := "r" ++ toString row ++ "_c" ++ toString column

/-- The help of a row, or what stands in its place. -/
def helpOf (r : QuestionRow) : String := orText (r.help.getD "") emptyCell

/-- A cell. -/
def cellOf (settings stored : Fields) (r : QuestionRow) (column : Nat) : String :=
  if isQuestionColumn settings column then helpOf r
  else (stored.get (cellName r.id column)).shown

/-- A row. -/
def rowOf (settings : Fields) (columns : Nat) (answers : AnswerBook) (q : QuestionNode)
    (r : QuestionRow) : GridRow :=
  let stored := (answers.value q.question.id (some r.id)).fields
  { label := r.label
    image := r.image
    help := helpOf r
    cells := (List.range columns).map (cellOf settings stored r) }

/-- The settings of a section: those of its first question. -/
def settingsOf (n : SectionNode) : Fields := (n.questions.head?.map (·.question.settings)).getD []

/-- The grid table of a section. -/
def ofSection (n : SectionNode) (answers : AnswerBook) : GridView :=
  let settings := settingsOf n
  let columns := columnsOf settings
  let layout := settingOr settings "layout" "default"
  { layout := layout
    header := leadOf settings layout ++ columns
    rows := n.questions.flatMap fun q => q.rows.map (rowOf settings columns.length answers q) }

end GridView

namespace Html

/-- The cells in front of the columns: the label and the help, or the picture and the label. -/
def gridLead (v : GridView) (r : GridRow) : List Html :=
  if v.noImage then cell 3 "grid-label" r.label ++ cell 3 "grid-help" r.help
  else
    let address := r.image.getD ""
    let picture :=
      given (address != "")
        [lone "img" [attrOf "src" address, attr "class" "grid-image", attrOf "alt" r.label]
          .spacedSlash]
    let label := given (!v.split || address == "") [element "div" (cls "grid-label") [text r.label]]
    line 3 [element "td" (cls "grid-shape") (eol :: picture ++ label ++ [pad 3])]

/-- A grid table. -/
def gridBody (v : GridView) : List Html :=
  block 0 "table" [⟨"class", [.fixed "grid-table grid-", .value v.layout]⟩]
    (block 1 "thead" [] (block 2 "tr" [] (v.header.flatMap (leaf 3 "th" []))) ++
      block 1 "tbody" []
        (v.rows.flatMap fun r =>
          block 2 "tr" [] (gridLead v r ++ r.cells.flatMap (cell 3 "grid-cell"))))

end Html

end FormPress
