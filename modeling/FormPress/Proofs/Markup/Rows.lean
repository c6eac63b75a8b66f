/-
  FormPress.Proofs.Markup.Rows

  The rows of the tables in a tree of markup, each with its cells, in the order in
  which they are written.  The lemmas push `Html.rowsIn` and `Html.cellsIn` through
  the ways in which trees are built: what stands on a line, in a block or between
  cells, white space included, drops out on the way.
-/
import FormPress.Html.Basic

namespace FormPress.Html

/-! ## Cells -/

/-- Whether a node is a cell of a table. -/
def isCell : Html → Bool
  | element tag _ _ => tag == "td" || tag == "th"
  | _ => false

/-- The cells of a row with some content. -/
def cellsIn (nodes : List Html) : List Html := nodes.filter isCell

@[simp] theorem cellsIn_nil : cellsIn [] = [] := rfl

/-- The cells of two sequences are those of the first and those of the second. -/
@[simp] theorem cellsIn_append (hs ks : List Html) :
    cellsIn (hs ++ ks) = cellsIn hs ++ cellsIn ks :=
  List.filter_append ..

@[simp] theorem cellsIn_flatMap {α : Type} (xs : List α) (f : α → List Html) :
    cellsIn (xs.flatMap f) = xs.flatMap fun x => cellsIn (f x) :=
  List.filter_flatMap ..

@[simp] theorem cellsIn_eol_cons (hs : List Html) : cellsIn (eol :: hs) = cellsIn hs := rfl

@[simp] theorem cellsIn_pad (depth : Nat) : cellsIn [pad depth] = [] := rfl

/-- What stands on a line is a cell or not as it is elsewhere. -/
@[simp] theorem cellsIn_line (depth : Nat) (nodes : List Html) :
    cellsIn (line depth nodes) = cellsIn nodes := by
  have hline : line depth nodes = [pad depth] ++ nodes ++ [eol] := rfl
  rw [hline, cellsIn_append, cellsIn_append, cellsIn_pad, List.nil_append, cellsIn_eol_cons,
    cellsIn_nil, List.append_nil]

@[simp] theorem cellsIn_td (attrs : List Attr) (children : List Html) :
    cellsIn [element "td" attrs children] = [element "td" attrs children] := rfl

@[simp] theorem cellsIn_th (attrs : List Attr) (children : List Html) :
    cellsIn [element "th" attrs children] = [element "th" attrs children] := rfl

/-- A text in an element is a cell if the element is. -/
@[simp] theorem cellsIn_leaf (depth : Nat) (tag : String) (attrs : List Attr) (s : String) :
    cellsIn (leaf depth tag attrs s) = cellsIn [element tag attrs [text s]] :=
  cellsIn_line depth _

@[simp] theorem cellsIn_cell (depth : Nat) (names s : String) :
    cellsIn (cell depth names s) = [element "td" (cls names) [text s]] :=
  cellsIn_line depth _

/-! ## Rows -/

mutual

/-- The rows of the tables in some markup, each with its cells. -/
def rows : Html → List (List Html)
  | element tag _ children =>
    if tag == "tr" then cellsIn children :: rowsIn children else rowsIn children
  | _ => []

/-- The rows of the tables in a sequence of nodes. -/
def rowsIn : List Html → List (List Html)
  | [] => []
  | h :: hs => h.rows ++ rowsIn hs

end

@[simp] theorem rowsIn_nil : rowsIn [] = [] := rfl

/-- The rows of two sequences are those of the first and those of the second. -/
@[simp] theorem rowsIn_append (hs ks : List Html) : rowsIn (hs ++ ks) = rowsIn hs ++ rowsIn ks := by
  induction hs with
  | nil => rfl
  | cons h hs ih => rw [List.cons_append, rowsIn, rowsIn, ih, List.append_assoc]

@[simp] theorem rowsIn_flatMap {α : Type} (xs : List α) (f : α → List Html) :
    rowsIn (xs.flatMap f) = xs.flatMap fun x => rowsIn (f x) := by
  induction xs with
  | nil => rfl
  | cons x xs ih => rw [List.flatMap_cons, rowsIn_append, ih, List.flatMap_cons]

@[simp] theorem rowsIn_eol_cons (hs : List Html) : rowsIn (eol :: hs) = rowsIn hs := rfl

@[simp] theorem rowsIn_pad (depth : Nat) : rowsIn [pad depth] = [] := rfl

@[simp] theorem rowsIn_rich (s : String) : rowsIn [rich s] = [] := rfl

@[simp] theorem rowsIn_lone (tag : String) (attrs : List Attr) (ending : LoneEnd) :
    rowsIn [lone tag attrs ending] = [] := rfl

@[simp] theorem rowsIn_text (s : String) : rowsIn [text s] = [] := rfl

@[simp] theorem rowsIn_given (c : Bool) (nodes : List Html) :
    rowsIn (given c nodes) = if c then rowsIn nodes else [] := by
  cases c <;> rfl

/-- An element that is a row comes before the rows inside of it. -/
@[simp] theorem rowsIn_element (tag : String) (attrs : List Attr) (children : List Html) :
    rowsIn [element tag attrs children] =
      if tag == "tr" then cellsIn children :: rowsIn children else rowsIn children := by
  rw [rowsIn, rowsIn, List.append_nil, rows]

@[simp] theorem rowsIn_line (depth : Nat) (nodes : List Html) :
    rowsIn (line depth nodes) = rowsIn nodes := by
  have hline : line depth nodes = [pad depth] ++ nodes ++ [eol] := rfl
  rw [hline, rowsIn_append, rowsIn_append, rowsIn_pad, List.nil_append, rowsIn_eol_cons, rowsIn_nil,
    List.append_nil]

/-- An element over several lines is a row or not as it is on one. -/
@[simp] theorem rowsIn_block (depth : Nat) (tag : String) (attrs : List Attr)
    (children : List Html) :
    rowsIn (block depth tag attrs children) =
      if tag == "tr" then cellsIn children :: rowsIn children else rowsIn children := by
  rw [block, rowsIn_line, spanning, rowsIn_element]
  simp

@[simp] theorem rowsIn_leaf (depth : Nat) (tag : String) (attrs : List Attr) (s : String) :
    rowsIn (leaf depth tag attrs s) = if tag == "tr" then [[]] else [] := by
  rw [leaf, rowsIn_line, rowsIn_element]
  rfl

@[simp] theorem rowsIn_cell (depth : Nat) (names s : String) : rowsIn (cell depth names s) = [] :=
  rowsIn_leaf depth "td" (cls names) s

end FormPress.Html
