/-
  FormPress.Html.Basic

  Markup as a tree. All text and all values of attributes are escaped when the
  tree is written out (`Html.render`), so markup can enter only as a node of the
  tree or as trusted rich text (`Html.rich`). White space is text like any other;
  `Html.line` and `Html.block` put it around nodes that stand on lines of their own.
-/

namespace FormPress

/-! ## Escaping -/

/-- A character as it is written in markup. -/
def escapeChar (c : Char) : List Char :=
  if c == '&' then "&amp;".toList
  else if c == '<' then "&lt;".toList
  else if c == '>' then "&gt;".toList
  else if c == '\'' then "&#39;".toList
  else if c == '"' then "&#34;".toList
  else [c]

/-- A text as it is written in markup. -/
def escape (s : String) : String := String.ofList (s.toList.flatMap escapeChar)

/-- Line breaks of trusted markup become break elements; a return before one is dropped. -/
def breakLines : List Char → List Char
  | '\r' :: '\n' :: s => "<br/>".toList ++ breakLines s
  | '\n' :: s => "<br/>".toList ++ breakLines s
  | c :: s => c :: breakLines s
  | [] => []

/-- Trusted markup as it is written. -/
def richText (s : String) : String := String.ofList (breakLines s.toList)

/-! ## Trees -/

/-- A part of the value of an attribute: a fixed one, written as it is, or a value. -/
inductive AttrPart where
  | fixed (s : String)
  | value (s : String)
  deriving Repr, DecidableEq, Inhabited

/-- An attribute. -/
structure Attr where
  name : String
  parts : List AttrPart
  deriving Repr, DecidableEq, Inhabited

/-- How an element without content ends its tag. -/
inductive LoneEnd where
  | plain
  | slash
  | spacedSlash
  deriving Repr, DecidableEq, Inhabited

/-- Markup. -/
inductive Html where
  /-- text, escaped when written -/
  | text (s : String)
  /-- a character by its number -/
  | charRef (code : Nat)
  /-- trusted markup with line breaks -/
  | rich (s : String)
  /-- the declaration in front of a page -/
  | doctype
  /-- a style sheet -/
  | style (sheet : String)
  /-- an element without content -/
  | lone (tag : String) (attrs : List Attr) (ending : LoneEnd)
  /-- an element with its content -/
  | element (tag : String) (attrs : List Attr) (children : List Html)
  deriving Repr, Inhabited

/-! ## Writing -/

/-- A part of the value of an attribute as it is written. -/
def AttrPart.render : AttrPart → String
  | fixed s => s
  | value s => escape s

/-- An attribute as it is written, with the space in front of it. -/
def Attr.render (a : Attr) : String :=
  " " ++ a.name ++ "=\"" ++ String.join (a.parts.map AttrPart.render) ++ "\""

/-- The attributes of an element as they are written. -/
def renderAttrs (attrs : List Attr) : String := String.join (attrs.map Attr.render)

/-- The end of the tag of an element without content. -/
def LoneEnd.render : LoneEnd → String
  | plain => ">"
  | slash => "/>"
  | spacedSlash => " />"

namespace Html

mutual

/-- Markup as it is written. -/
def render : Html → String
  | text s => escape s
  | charRef code => "&#" ++ toString code ++ ";"
  | rich s => richText s
  | doctype => "<!DOCTYPE html>"
  | style sheet => "<style>\n" ++ sheet ++ "</style>"
  | lone tag attrs ending => "<" ++ tag ++ renderAttrs attrs ++ ending.render
  | element tag attrs children =>
    "<" ++ tag ++ renderAttrs attrs ++ ">" ++ renderAll children ++ "</" ++ tag ++ ">"

/-- A sequence of nodes as it is written. -/
def renderAll : List Html → String
  | [] => ""
  | h :: hs => h.render ++ renderAll hs

end

/-! ## Building -/

/-- A fixed attribute. -/
def attr (name value : String) : Attr := ⟨name, [.fixed value]⟩

/-- An attribute with a value. -/
def attrOf (name value : String) : Attr := ⟨name, [.value value]⟩

/-- A fixed class. -/
def cls (names : String) : List Attr := [attr "class" names]

/-- The nodes, if a condition holds. -/
def given (c : Bool) (nodes : List Html) : List Html := if c then nodes else []

/-- The indentation of a line. -/
def pad (depth : Nat) : Html := text (String.ofList (List.replicate (2 * depth) ' '))

/-- The end of a line. -/
def eol : Html := text "\n"

/-- Nodes on a line of their own. -/
def line (depth : Nat) (nodes : List Html) : List Html := pad depth :: nodes ++ [eol]

/-- An element whose start and end stand on lines of their own, without the end of the last one. -/
def spanning (depth : Nat) (tag : String) (attrs : List Attr) (children : List Html) : Html :=
  element tag attrs (eol :: children ++ [pad depth])

/-- An element whose start and end stand on lines of their own. -/
def block (depth : Nat) (tag : String) (attrs : List Attr) (children : List Html) : List Html :=
  line depth [spanning depth tag attrs children]

/-- An element on a line of its own with a text in it. -/
def leaf (depth : Nat) (tag : String) (attrs : List Attr) (s : String) : List Html :=
  line depth [element tag attrs [text s]]

/-- A cell of a table with a text in it. -/
def cell (depth : Nat) (names s : String) : List Html := leaf depth "td" (cls names) s

end Html

end FormPress
