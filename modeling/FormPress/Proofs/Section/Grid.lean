/-
  FormPress.Proofs.Section.Grid

  The grid table of a section, as it stands in the markup
  (`SectionFragment.ofSection_grid`).  Whatever the settings say about layout,
  columns and types of columns, every row of the table is as wide as its header,
  since the layout decides on the cells in front of the columns in both
  (`Html.length_gridLead`).  A cell reads one field of one stored answer, and the
  name of the field tells the column (`GridView.cellName_inj`), so a change of that
  field reaches no other cell.
-/
import FormPress.Proofs.Data.Numerals
import FormPress.Proofs.Markup.Rows
import FormPress.Proofs.Record.Fields
import FormPress.Section.Fragment
import Mathlib.Data.List.Forall2
import Mathlib.Tactic.ByContra

namespace FormPress

/-! ## Rows and fields -/

/-- The rows of a section's questions, each with its question, in document order. -/
def SectionNode.questionRows (n : SectionNode) : List (QuestionNode × QuestionRow) :=
  n.questions.flatMap fun q => q.rows.map (q, ·)

namespace AnswerBook

/-- The fields of the answer of a row. -/
def rowFields (b : AnswerBook) (question row : Int) : Fields := (b.value question (some row)).fields

/-- Two books that differ in one field of the answer of one row, if at all. -/
structure DifferAtField (a b : AnswerBook) (question row : Int) (name : String) : Prop where
  elsewhere : ∀ k : AnswerKey, k ≠ ⟨question, some row⟩ →
    a.value k.question k.row = b.value k.question k.row
  otherFields : ∀ other, other ≠ name →
    (a.rowFields question row).get other = (b.rowFields question row).get other

/-- A book with another value in one field of the answer of a row. -/
def setField (b : AnswerBook) (question row : Int) (name : String) (value : Value) : AnswerBook :=
  let fields := (b.rowFields question row).set (.text name) value
  { b with byKey := b.byKey.put ⟨question, some row⟩ (.structured (.object fields)) }

/-- To set a field leaves all other answers and all other fields as they are. -/
theorem differAtField_setField (b : AnswerBook) (question row : Int) (name : String)
    (value : Value) : b.DifferAtField (b.setField question row name value) question row name where
  elsewhere k hk := by
    rw [AnswerBook.value, AnswerBook.value, lookUp, lookUp, setField,
      Table.get?_put_of_ne (Ne.symm hk)]
  otherFields other hother := by
    have hput : (b.setField question row name value).rowFields question row =
        (b.rowFields question row).set (.text name) value := by
      rw [rowFields, AnswerBook.value, lookUp, setField, Table.get?_put_self, Option.getD_some,
        AnswerValue.fields]
    rw [hput, Fields.get, Fields.get, Fields.get?_set, if_neg (Ne.symm hother)]

end AnswerBook

namespace GridView

variable {settings : Fields} {n : SectionNode} {a b : AnswerBook} {question row : Int}
  {column : Nat} {x : QuestionNode × QuestionRow}

/-- The columns that show the help of their rows: those of the type for questions. -/
def ShowsHelp (settings : Fields) (column : Nat) : Prop :=
  ∃ kinds, settings.get "columnTypes" = .list kinds ∧ kinds[column]? = some (.text "question")

/-- A column is told to show help just where its type is the one for questions. -/
theorem isQuestionColumn_iff :
    isQuestionColumn settings column = true ↔ ShowsHelp settings column := by
  unfold isQuestionColumn ShowsHelp
  split
  next kinds hkinds =>
    rw [hkinds]
    simp only [Value.list.injEq, exists_eq_left']
    split
    next s hkind => simp [hkind]
    next hother =>
      simp only [Bool.false_eq_true, false_iff]
      exact hother "question"
  next hother =>
    simp only [Bool.false_eq_true, false_iff]
    rintro ⟨kinds, hkinds, -⟩
    exact hother kinds hkinds

/-- In the answer of a row, different columns have different names. -/
theorem cellName_inj {i j : Nat} : cellName row i = cellName row j ↔ i = j := by
  rw [cellName, cellName, String.append_right_inj, natText_inj]

/-- A cell on which one field has a bearing is that of its row and column, and shows no help. -/
theorem cellOf_ne {j : Nat} (h : a.DifferAtField b question row (cellName row column))
    (hne : cellOf settings (a.rowFields x.1.question.id x.2.id) x.2 j ≠
      cellOf settings (b.rowFields x.1.question.id x.2.id) x.2 j) :
    x.1.question.id = question ∧ x.2.id = row ∧ j = column ∧ ¬ ShowsHelp settings column := by
  have hanswer : ¬ ShowsHelp settings j := by
    intro hhelp
    have htype := isQuestionColumn_iff.mpr hhelp
    exact hne (by rw [cellOf, cellOf, if_pos htype, if_pos htype])
  have htype : ¬ isQuestionColumn settings j = true := mt isQuestionColumn_iff.mp hanswer
  rw [cellOf, cellOf, if_neg htype, if_neg htype] at hne
  -- The books agree on all answers but one, and in this one on all fields but one.
  have hkey : (⟨x.1.question.id, some x.2.id⟩ : AnswerKey) = ⟨question, some row⟩ := by
    by_contra hother
    exact hne (by rw [AnswerBook.rowFields, AnswerBook.rowFields, h.elsewhere _ hother])
  obtain ⟨rfl, hrow⟩ := AnswerKey.mk.inj hkey
  obtain rfl := Option.some.inj hrow
  have hname : cellName x.2.id j = cellName x.2.id column := by
    by_contra hother
    exact hne (by rw [h.otherFields _ hother])
  obtain rfl := cellName_inj.mp hname
  exact ⟨rfl, rfl, rfl, hanswer⟩

/-! ## Views -/

/-- The number of headers in front of the columns. -/
def leadWidth (settings : Fields) : Nat :=
  (leadOf settings (settingOr settings "layout" "default")).length

/-- What a row of the table shows of a row of a question. -/
structure ShowsRow (settings : Fields) (answers : AnswerBook) (x : QuestionNode × QuestionRow)
    (g : GridRow) : Prop where
  label : g.label = x.2.label
  image : g.image = x.2.image
  help : g.help = orText (x.2.help.getD "") "—"
  width : g.cells.length = (columnsOf settings).length
  asked : ∀ j s, g.cells[j]? = some s → ShowsHelp settings j → s = g.help
  answered : ∀ j s, g.cells[j]? = some s → ¬ ShowsHelp settings j →
    s = ((answers.rowFields x.1.question.id x.2.id).get (cellName x.2.id j)).shown

/-- The row of the table for a row of a question. -/
def rowFor (n : SectionNode) (answers : AnswerBook) (x : QuestionNode × QuestionRow) : GridRow :=
  rowOf (settingsOf n) (columnsOf (settingsOf n)).length answers x.1 x.2

/-- The rows of a table are made of the rows of the questions, one each. -/
theorem ofSection_rows (n : SectionNode) (answers : AnswerBook) :
    (ofSection n answers).rows = n.questionRows.map (rowFor n answers) := by
  rw [ofSection, SectionNode.questionRows, List.map_flatMap]
  simp only [List.map_map]
  rfl

/-- A row has a cell at each column and nothing behind the last one. -/
theorem getElem?_cells_rowFor (n : SectionNode) (answers : AnswerBook)
    (x : QuestionNode × QuestionRow) (j : Nat) :
    (rowFor n answers x).cells[j]? = if j < (columnsOf (settingsOf n)).length then
      some (cellOf (settingsOf n) (answers.rowFields x.1.question.id x.2.id) x.2 j) else none := by
  rw [rowFor, rowOf, List.getElem?_map]
  split
  next hj => rw [List.getElem?_range hj]; rfl
  next hj => rw [List.getElem?_eq_none (by rw [List.length_range]; omega)]; rfl

/-- The row made for a row of a question shows it. -/
theorem rowFor_shows (n : SectionNode) (answers : AnswerBook) (x : QuestionNode × QuestionRow) :
    ShowsRow (settingsOf n) answers x (rowFor n answers x) := by
  have hcell {j : Nat} {s : String} (h : (rowFor n answers x).cells[j]? = some s) :
      s = cellOf (settingsOf n) (answers.rowFields x.1.question.id x.2.id) x.2 j := by
    rw [getElem?_cells_rowFor, Option.ite_none_right_eq_some] at h
    exact (Option.some.inj h.2).symm
  refine ⟨rfl, rfl, rfl, ?_, fun j s hj hhelp => ?_, fun j s hj hanswer => ?_⟩
  · rw [rowFor, rowOf, List.length_map, List.length_range]
  · rw [hcell hj, cellOf, if_pos (isQuestionColumn_iff.mpr hhelp)]
    rfl
  · rw [hcell hj, cellOf, if_neg (mt isQuestionColumn_iff.mp hanswer)]

/-- A field of a column that shows the help of its rows has no bearing on the table. -/
theorem ofSection_eq_of_showsHelp (h : a.DifferAtField b question row (cellName row column))
    (hhelp : ShowsHelp (settingsOf n) column) : ofSection n a = ofSection n b := by
  have hcells (q : QuestionNode) (r : QuestionRow) :
      cellOf (settingsOf n) (a.rowFields q.question.id r.id) r =
        cellOf (settingsOf n) (b.rowFields q.question.id r.id) r := by
    funext j
    by_contra hne
    obtain ⟨-, -, -, hanswer⟩ := cellOf_ne (x := (q, r)) h hne
    exact hanswer hhelp
  have hrows (columns : Nat) (q : QuestionNode) :
      rowOf (settingsOf n) columns a q = rowOf (settingsOf n) columns b q := by
    funext r
    have hr := hcells q r
    rw [AnswerBook.rowFields, AnswerBook.rowFields] at hr
    rw [rowOf, rowOf, hr]
  simp only [ofSection, hrows]

end GridView

/-! ## Markup -/

namespace Html

open GridView

/-- A cell of the header of a table. -/
def headerCell (s : String) : Html := element "th" [] [text s]

/-- A cell of a grid table under one of its columns. -/
def gridCell (s : String) : Html := element "td" (cls "grid-cell") [text s]

/-- The cells of a row of a grid table. -/
def gridCells (v : GridView) (g : GridRow) : List Html :=
  cellsIn (gridLead v g) ++ g.cells.map gridCell

theorem rowsIn_gridLead (v : GridView) (g : GridRow) : rowsIn (gridLead v g) = [] := by
  unfold gridLead
  split <;> simp

/-- A grid table has a row for its header and one for each of its rows. -/
theorem rowsIn_gridBody (v : GridView) :
    rowsIn (gridBody v) = v.header.map headerCell :: v.rows.map (gridCells v) := by
  have hheader : cellsIn (v.header.flatMap (leaf 3 "th" [])) = v.header.map headerCell := by
    simp only [cellsIn_flatMap, cellsIn_leaf, cellsIn_th, headerCell, List.map_eq_flatMap]
  have hnested : rowsIn (v.header.flatMap (leaf 3 "th" [])) = [] := by
    rw [rowsIn_flatMap, List.flatMap_eq_nil_iff]
    exact fun s _ => rowsIn_leaf 3 "th" [] s
  have hrow (g : GridRow) : rowsIn (block 2 "tr" []
      (gridLead v g ++ g.cells.flatMap (cell 3 "grid-cell"))) = [gridCells v g] := by
    have hcells : cellsIn (g.cells.flatMap (cell 3 "grid-cell")) = g.cells.map gridCell := by
      simp only [cellsIn_flatMap, cellsIn_cell, gridCell, List.map_eq_flatMap]
    have hinner : rowsIn (g.cells.flatMap (cell 3 "grid-cell")) = [] := by
      rw [rowsIn_flatMap, List.flatMap_eq_nil_iff]
      exact fun s _ => rowsIn_cell 3 "grid-cell" s
    simp [gridCells, rowsIn_gridLead, hcells, hinner]
  simp [gridBody, hheader, hnested, hrow, List.map_eq_flatMap]

/-- The layout decides on the number of cells in front of the columns, as on that of headers. -/
theorem length_gridLead (settings : Fields) (v : GridView) (g : GridRow) :
    (cellsIn (gridLead v g)).length = (leadOf settings v.layout).length := by
  by_cases hnone : v.layout = "no_image"
  · simp [gridLead, noImage, leadOf, hnone]
  · -- All other layouts have one header there, and put picture and label into one cell.
    have hlead : (leadOf settings v.layout).length = 1 := by
      simp only [leadOf, beq_iff_eq, hnone, if_false]
      split <;> rfl
    simp [gridLead, noImage, hnone, hlead]

/-- A heading has no rows. -/
theorem rowsIn_heading (h : Heading) : rowsIn (heading h) = [] := by
  rw [heading, rowsIn_append, List.append_eq_nil_iff]
  constructor
  · split <;> simp
  · split <;> simp

/-- The introduction has no rows. -/
theorem rowsIn_learnerIntro (e : EvaluationProfile) : rowsIn (learnerIntro e) = [] := by
  have hbullets (items : List String) : rowsIn (items.flatMap (leaf 2 "li" [])) = [] := by
    rw [rowsIn_flatMap, List.flatMap_eq_nil_iff]
    exact fun s _ => rowsIn_leaf 2 "li" [] s
  simp [learnerIntro, maybeParagraph, maybeBullets, hbullets]

end Html

namespace GridView

open Html (cellsIn gridLead gridCell gridCells)

variable {n : SectionNode} {a b : AnswerBook} {question row : Int} {column : Nat}

/-- A row of a grid table in markup: as wide as the header, with the answers at its end. -/
structure PrintedRow (v : GridView) (g : GridRow) (cells : List Html) : Prop where
  width : cells.length = v.header.length
  data : ∀ cell ∈ cells, ∃ attrs children, cell = .element "td" attrs children
  columns : g.cells.map gridCell <:+ cells

/-- A row with a cell for each column is printed as wide as the header. -/
theorem gridCells_printed {answers : AnswerBook} {g : GridRow}
    (hg : g.cells.length = (columnsOf (settingsOf n)).length) :
    PrintedRow (ofSection n answers) g (gridCells (ofSection n answers) g) where
  width := by
    rw [gridCells, List.length_append, Html.length_gridLead (settingsOf n), List.length_map, hg,
      ofSection, List.length_append]
  data cell hcell := by
    -- A cell stands in front of the columns or under one of them.
    rcases List.mem_append.mp hcell with hlead | hanswer
    · unfold gridLead at hlead
      split at hlead
      · simp only [Html.cellsIn_append, Html.cellsIn_cell, List.mem_append,
          List.mem_singleton] at hlead
        rcases hlead with rfl | rfl <;> exact ⟨_, _, rfl⟩
      · simp only [Html.cellsIn_line, Html.cellsIn_td, List.mem_singleton] at hlead
        exact ⟨_, _, hlead⟩
    · obtain ⟨s, -, rfl⟩ := List.mem_map.mp hanswer
      exact ⟨_, _, rfl⟩
  columns := List.suffix_append ..

/-- The cells of a row on which one field has a bearing are those in the column of the field. -/
theorem gridCells_ne {x : QuestionNode × QuestionRow} {k : Nat}
    (h : a.DifferAtField b question row (cellName row column))
    (hne : (gridCells (ofSection n a) (rowFor n a x))[k]? ≠
      (gridCells (ofSection n b) (rowFor n b x))[k]?) :
    x.1.question.id = question ∧ x.2.id = row ∧ k = leadWidth (settingsOf n) + column := by
  -- The cells in front of the columns do not depend on the answers.
  have hlead : cellsIn (gridLead (ofSection n a) (rowFor n a x)) =
      cellsIn (gridLead (ofSection n b) (rowFor n b x)) := rfl
  have hwidth : (cellsIn (gridLead (ofSection n b) (rowFor n b x))).length =
      leadWidth (settingsOf n) := Html.length_gridLead ..
  rw [gridCells, gridCells, hlead, List.getElem?_append, List.getElem?_append, hwidth] at hne
  by_cases hk : k < leadWidth (settingsOf n)
  · rw [if_pos hk, if_pos hk] at hne
    exact absurd rfl hne
  · rw [if_neg hk, if_neg hk, List.getElem?_map, List.getElem?_map, getElem?_cells_rowFor,
      getElem?_cells_rowFor] at hne
    obtain ⟨hquestion, hrow, hcolumn, -⟩ := cellOf_ne h fun heq => hne (by rw [heq])
    exact ⟨hquestion, hrow, by omega⟩

end GridView

/-! ## Sections -/

namespace SectionFragment

open GridView Html

variable {n : SectionNode} {p : Profile} {c : SectionContext}

/-- The rows of the tables of a section are those of its view. -/
theorem rows_content (n : SectionNode) (answers : AnswerBook) (p : Profile) (number : Option Int)
    (c : SectionContext) :
    (ofSection n answers p number c).content.rows =
      rowsIn (SectionView.ofSection n answers p c).body := by
  have hheading : rowsIn (((Heading.ofSection n.header number).map heading).getD []) = [] := by
    cases Heading.ofSection n.header number with
    | none => rfl
    | some h => exact rowsIn_heading h
  simp [ofSection, Html.rows, hheading, rowsIn_learnerIntro]

/-- The cell at a place of a table, if there is one. -/
def entry (rows : List (List Html)) (i k : Nat) : Option Html := rows[i]?.bind (·[k]?)

/-- A fragment with the grid table of a section: under its header one row for each row of a
    question, in document order. -/
structure HasGrid (f : SectionFragment) (n : SectionNode) (answers : AnswerBook) (v : GridView) :
    Prop where
  view : f.view = .grid v
  columns : v.header.drop (leadWidth (settingsOf n)) = columnsOf (settingsOf n)
  rows : List.Forall₂ (ShowsRow (settingsOf n) answers) n.questionRows v.rows
  header : f.content.rows.head? = some (v.header.map headerCell)
  body : List.Forall₂ (PrintedRow v) v.rows f.content.rows.tail

/-- Two fragments with the grid table of a section that differ in no cells but those of a column in
    the rows of one question and row, and not at all if the column shows the help of its rows. -/
structure SameElsewhere (n : SectionNode) (f g : SectionFragment) (question row : Int)
    (column : Nat) : Prop where
  only : ∀ i k, entry f.content.rows i k ≠ entry g.content.rows i k →
    ∃ m x, i = m + 1 ∧ n.questionRows[m]? = some x ∧ x.1.question.id = question ∧ x.2.id = row ∧
      k = leadWidth (settingsOf n) + column
  same : ShowsHelp (settingsOf n) column → f = g

/-- A section in the mode of grids is shown as one unless it is the participant's. -/
theorem view_of_grid (hmode : n.header.mode = .gridTable)
    (hplain : SectionView.isParticipantSection n p c = false) (answers : AnswerBook) :
    SectionView.ofSection n answers p c = .grid (GridView.ofSection n answers) := by
  simp only [SectionView.ofSection, hplain, hmode, Bool.false_eq_true, if_false]

/-- The rows in the markup of a section shown as a grid are those of the grid alone. -/
theorem rows_of_grid (number : Option Int) (hmode : n.header.mode = .gridTable)
    (hplain : SectionView.isParticipantSection n p c = false) (answers : AnswerBook) :
    (ofSection n answers p number c).content.rows =
      (GridView.ofSection n answers).header.map headerCell ::
        n.questionRows.map fun x =>
          gridCells (GridView.ofSection n answers) (rowFor n answers x) := by
  rw [rows_content, view_of_grid hmode hplain, SectionView.body, rowsIn_gridBody, ofSection_rows,
    List.map_map]
  rfl

/-- The grid table of a section is as wide in all its rows as in its header, and each of its cells
    reads one field of one stored answer at most. -/
theorem ofSection_grid (number : Option Int) (hmode : n.header.mode = .gridTable)
    (hplain : SectionView.isParticipantSection n p c = false) :
    (∀ answers, ∃ v, (ofSection n answers p number c).HasGrid n answers v) ∧
    ∀ a b question row column, a.DifferAtField b question row (cellName row column) →
      SameElsewhere n (ofSection n a p number c) (ofSection n b p number c) question row
        column := by
  constructor
  · intro answers
    have hrows := rows_of_grid number hmode hplain answers
    refine ⟨GridView.ofSection n answers, view_of_grid hmode hplain answers, List.drop_left .., ?_,
      ?_, ?_⟩
    · rw [ofSection_rows, List.forall₂_map_right_iff, List.forall₂_same]
      exact fun x _ => rowFor_shows n answers x
    · rw [hrows, List.head?_cons]
    · rw [hrows, List.tail_cons, ofSection_rows, List.forall₂_map_left_iff,
        List.forall₂_map_right_iff, List.forall₂_same]
      exact fun x _ => gridCells_printed (rowFor_shows n answers x).width
  · intro a b question row column h
    constructor
    · intro i k hne
      rw [rows_of_grid number hmode hplain, rows_of_grid number hmode hplain] at hne
      cases i with
      | zero =>
          -- The header holds nothing of the answers.
          exact absurd rfl hne
      | succ m =>
          simp only [entry, List.getElem?_cons_succ, List.getElem?_map] at hne
          cases hx : n.questionRows[m]? with
          | none => simp [hx] at hne
          | some x =>
              simp only [hx, Option.map_some, Option.bind_some] at hne
              exact ⟨m, x, rfl, hx, gridCells_ne h hne⟩
    · intro hhelp
      have hview : SectionView.ofSection n a p c = SectionView.ofSection n b p c := by
        rw [view_of_grid hmode hplain, view_of_grid hmode hplain,
          ofSection_eq_of_showsHelp h hhelp]
      simp only [ofSection, hview]

/-- A section with a question about two columns, only the first of which has a type, in two rows. -/
def shapeSection : SectionNode :=
  { header := { (default : Section) with title := "Shapes", modeText := some "grid_table" }
    questions := [⟨{ (default : Question) with
        id := 7
        settings := [(.text "layout", .text "no_image"),
          (.text "columns", .list [.text "Sides", .text "Area"]),
          (.text "columnTypes", .list [.text "question"])] },
      [], [{ (default : QuestionRow) with id := 1, label := "Square", help := some "four" },
        { (default : QuestionRow) with id := 11, label := "Cube" }]⟩] }

/-- A new text in the second column of a row changes the table just there, behind the label, the
    help and the first column. -/
theorem ofSection_grid_of_setField :
    let a : AnswerBook := ⟨[(⟨7, some 1⟩, .structured (.object [(.text "r1_c1", .text "2")])),
      (⟨7, some 11⟩, .structured (.object [(.text "r1_c1", .text "3")]))], []⟩
    let b := a.setField 7 1 (cellName 1 1) (.text "4")
    let f (answers : AnswerBook) := ofSection shapeSection answers {} (some 3) {}
    shapeSection.header.mode = .gridTable ∧
      SectionView.isParticipantSection shapeSection {} {} = false ∧
      (∀ answers, ∃ v, (f answers).HasGrid shapeSection answers v) ∧
      SameElsewhere shapeSection (f a) (f b) 7 1 1 ∧
      entry (f a).content.rows 1 3 = some (gridCell "2") ∧
      entry (f b).content.rows 1 3 = some (gridCell "4") := by
  intro a b f
  obtain ⟨hgrid, hlocal⟩ := ofSection_grid (n := shapeSection) (p := {}) (c := {}) (some 3) rfl rfl
  have hdiffer := a.differAtField_setField 7 1 (cellName 1 1) (.text "4")
  exact ⟨rfl, rfl, hgrid, hlocal a b 7 1 1 hdiffer, rfl, rfl⟩

end SectionFragment

end FormPress
