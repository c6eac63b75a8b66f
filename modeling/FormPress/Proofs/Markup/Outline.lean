/-
  FormPress.Proofs.Markup.Outline

  The markup characters of a written tree: angle brackets and quotes.  Escaped
  text has none of them (`markupOf_escape`), so the outline of a tree is made of
  its tags, its fixed attributes and its trusted texts alone.  The lemmas push
  `Html.outline` through the ways in which trees are built; text and the values
  of attributes drop out on the way.
-/
import FormPress.Html.Basic

namespace FormPress

/-! ## Markup characters -/

/-- Angle brackets and quotes. -/
def isMarkupChar (c : Char) : Bool := c == '<' || c == '>' || c == '"' || c == '\''

/-- The markup characters of a text, in order. -/
def markupOf (s : String) : List Char := s.toList.filter isMarkupChar

/-- The markup characters of two texts stand one behind the other. -/
@[simp] theorem markupOf_append (s t : String) : markupOf (s ++ t) = markupOf s ++ markupOf t := by
  rw [markupOf, String.toList_append, List.filter_append]
  rfl

@[simp] theorem markupOf_empty : markupOf "" = [] := rfl

/-- An escaped character is written without markup characters. -/
theorem escapeChar_not_markup {c d : Char} (hd : d ∈ escapeChar c) : isMarkupChar d = false := by
  -- Five characters are written in another way; the others stay, and are no markup.
  by_cases hc : c ∈ ['&', '<', '>', '\'', '"']
  · have hescaped : (escapeChar c).all (!isMarkupChar ·) = true := by
      simp only [List.mem_cons, List.not_mem_nil, or_false] at hc
      rcases hc with rfl | rfl | rfl | rfl | rfl <;> decide
    simpa using List.all_eq_true.mp hescaped d hd
  · simp only [List.mem_cons, List.not_mem_nil, or_false, not_or] at hc
    obtain ⟨hamp, hlt, hgt, hsingle, hdouble⟩ := hc
    have hplain : escapeChar c = [c] := by simp [escapeChar, hamp, hlt, hgt, hsingle, hdouble]
    rw [hplain] at hd
    obtain rfl := List.mem_singleton.mp hd
    simp [isMarkupChar, hlt, hgt, hsingle, hdouble]

/-- Escaped text holds no markup characters. -/
@[simp] theorem markupOf_escape (s : String) : markupOf (escape s) = [] := by
  rw [markupOf, escape, String.toList_ofList, List.filter_eq_nil_iff]
  intro d hd
  obtain ⟨c, -, hdc⟩ := List.mem_flatMap.mp hd
  simp [escapeChar_not_markup hdc]

/-- A character written by its number holds no markup characters. -/
theorem markupOf_natText (n : Nat) : markupOf (toString n) = [] := by
  rw [markupOf, List.filter_eq_nil_iff]
  intro d hd
  -- A number is written with digits, and none of them is markup.
  have hdigit : d.isDigit = true := by
    rw [Nat.toString_eq_repr, Nat.repr, String.toList_ofList] at hd
    exact Nat.isDigit_of_mem_toDigits (by decide) (by decide) hd
  simp only [isMarkupChar, Bool.or_eq_true, beq_iff_eq, not_or]
  refine ⟨⟨⟨?_, ?_⟩, ?_⟩, ?_⟩ <;> rintro rfl <;> exact absurd hdigit (by decide)

/-! ## Outlines of attributes -/

/-- The markup characters of some attributes. -/
def attrsOutline (attrs : List Attr) : List Char := markupOf (renderAttrs attrs)

/-- The markup characters of the value of an attribute. -/
def partsOutline (parts : List AttrPart) : List Char :=
  parts.flatMap fun part => markupOf part.render

/-- The markup characters of a joined text are those of its parts. -/
theorem markupOf_join (ss : List String) : markupOf (String.join ss) = ss.flatMap markupOf := by
  induction ss with
  | nil => rfl
  | cons s ss ih => rw [String.join_cons, markupOf_append, ih, List.flatMap_cons]

@[simp] theorem attrsOutline_nil : attrsOutline [] = [] := rfl

/-- An attribute adds two quotes, and what its name and its parts have. -/
theorem attrsOutline_cons (a : Attr) (attrs : List Attr) :
    attrsOutline (a :: attrs) =
      markupOf a.name ++ '"' :: partsOutline a.parts ++ '"' :: attrsOutline attrs := by
  have hspace : markupOf " " = [] := by decide
  have hopen : markupOf "=\"" = ['"'] := by decide
  have hclose : markupOf "\"" = ['"'] := by decide
  simp [attrsOutline, renderAttrs, Attr.render, markupOf_join, partsOutline, List.flatMap_map,
    hspace, hopen, hclose]

/-- An attribute with a value has the outline of one with the empty value. -/
theorem attrsOutline_attrOf (name value : String) (attrs : List Attr) :
    attrsOutline (Html.attrOf name value :: attrs) = attrsOutline (Html.attrOf name "" :: attrs) := by
  simp [attrsOutline_cons, Html.attrOf, partsOutline, AttrPart.render]

namespace Html

/-! ## Outlines of trees -/

/-- The markup characters of some nodes as they are written. -/
def outline (hs : List Html) : List Char := markupOf (renderAll hs)

/-- The outline of an element whose attributes and content have outlines of their own. -/
def enclosed (tag : String) (attrs inner : List Char) : List Char :=
  '<' :: markupOf tag ++ attrs ++ '>' :: inner ++ markupOf "</" ++ markupOf tag ++ ['>']

@[simp] theorem outline_nil : outline [] = [] := rfl

/-- The outline of a sequence begins with that of its first node. -/
theorem outline_cons (h : Html) (hs : List Html) :
    outline (h :: hs) = markupOf h.render ++ outline hs := by
  rw [outline, renderAll, markupOf_append]
  rfl

@[simp] theorem outline_append (xs ys : List Html) :
    outline (xs ++ ys) = outline xs ++ outline ys := by
  induction xs with
  | nil => rfl
  | cons x xs ih => rw [List.cons_append, outline_cons, ih, outline_cons, List.append_assoc]

@[simp] theorem outline_flatMap {α : Type} (xs : List α) (f : α → List Html) :
    outline (xs.flatMap f) = xs.flatMap fun x => outline (f x) := by
  induction xs with
  | nil => rfl
  | cons x xs ih => rw [List.flatMap_cons, outline_append, ih, List.flatMap_cons]

/-- A text leaves no trace in an outline. -/
@[simp] theorem outline_text (s : String) (hs : List Html) : outline (text s :: hs) = outline hs := by
  rw [outline_cons, render, markupOf_escape, List.nil_append]

@[simp] theorem outline_pad (depth : Nat) (hs : List Html) :
    outline (pad depth :: hs) = outline hs := outline_text ..

@[simp] theorem outline_eol (hs : List Html) : outline (eol :: hs) = outline hs := outline_text ..

@[simp] theorem outline_charRef (code : Nat) (hs : List Html) :
    outline (charRef code :: hs) = outline hs := by
  have hopen : markupOf "&#" = [] := by decide
  have hclose : markupOf ";" = [] := by decide
  rw [outline_cons, render, markupOf_append, markupOf_append, markupOf_natText, hopen, hclose]
  rfl

/-- An element in the outline of a sequence of nodes. -/
@[simp] theorem outline_element (tag : String) (attrs : List Attr) (children hs : List Html) :
    outline (element tag attrs children :: hs) =
      enclosed tag (attrsOutline attrs) (outline children) ++ outline hs := by
  have hopen : markupOf "<" = ['<'] := by decide
  have hclose : markupOf ">" = ['>'] := by decide
  rw [outline_cons, render]
  simp [enclosed, attrsOutline, outline, hopen, hclose]

/-- A tag alone in the outline of a sequence of nodes. -/
@[simp] theorem outline_lone (tag : String) (attrs : List Attr) (ending : LoneEnd)
    (hs : List Html) :
    outline (lone tag attrs ending :: hs) =
      '<' :: markupOf tag ++ attrsOutline attrs ++ markupOf ending.render ++ outline hs := by
  have hopen : markupOf "<" = ['<'] := by decide
  rw [outline_cons, render]
  simp [attrsOutline, hopen]

/-! ## Outlines of the ways to build trees -/

@[simp] theorem outline_given (c : Bool) (nodes : List Html) :
    outline (given c nodes) = bif c then outline nodes else [] := by
  cases c <;> rfl

/-- Blanks and line breaks leave no trace. -/
@[simp] theorem outline_line (depth : Nat) (nodes : List Html) :
    outline (line depth nodes) = outline nodes := by
  simp [line]

@[simp] theorem outline_spanning (depth : Nat) (tag : String) (attrs : List Attr)
    (children hs : List Html) :
    outline (spanning depth tag attrs children :: hs) =
      enclosed tag (attrsOutline attrs) (outline children) ++ outline hs := by
  simp [spanning]

/-- An element over several lines has the outline of the element. -/
@[simp] theorem outline_block (depth : Nat) (tag : String) (attrs : List Attr)
    (children : List Html) :
    outline (block depth tag attrs children) =
      enclosed tag (attrsOutline attrs) (outline children) := by
  simp [block]

/-- A text in an element leaves no trace in its outline. -/
@[simp] theorem outline_leaf (depth : Nat) (tag : String) (attrs : List Attr) (s : String) :
    outline (leaf depth tag attrs s) = enclosed tag (attrsOutline attrs) [] := by
  simp [leaf]

@[simp] theorem outline_cell (depth : Nat) (names s : String) :
    outline (cell depth names s) = enclosed "td" (attrsOutline (cls names)) [] := by
  rw [cell, outline_leaf]

end Html

end FormPress
