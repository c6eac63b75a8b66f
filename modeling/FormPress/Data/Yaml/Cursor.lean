/-
  FormPress.Data.Yaml.Cursor

  A place in a YAML text: how many characters are before it and in the whole
  text, its line and column, and the text from there on. The classes of characters that end lines
  and words are told here, and the marks that bound a document.
-/

namespace FormPress.Yaml

/-! ## Characters -/

/-- Whether a character ends a line. -/
def isBreak (c : Char) : Bool :=
  c == '\n' || c == '\r' || c == '\u0085' || c == '\u2028' || c == '\u2029'

/-- Whether a character is white space within a line. -/
def isInlineBlank (c : Char) : Bool := c == ' ' || c == '\t'

/-- Whether a character separates tokens. -/
def isSeparator (c : Char) : Bool := isInlineBlank c || isBreak c

/-- Whether the text ends or goes on with a separator. -/
def separated : List Char → Bool
  | [] => true
  | c :: _ => isSeparator c

/-- Whether the line ends here. -/
def lineEnds : List Char → Bool
  | [] => true
  | c :: _ => isBreak c

/-- Whether a word ends here: at a space or the end of the line, but not at a tab. -/
def wordEnds : List Char → Bool
  | [] => true
  | c :: _ => c == ' ' || isBreak c

/-- Characters of names. -/
def isNameChar (c : Char) : Bool := c.isAlphanum || c == '-' || c == '_'

/-! ## Places -/

/-- A place in a text of `size` characters. -/
structure Cursor where
  size : Nat
  index : Nat
  line : Nat
  column : Nat
  rest : List Char
  deriving Inhabited

namespace Cursor

/-- The start of a text. -/
def start (s : List Char) : Cursor := ⟨s.length, 0, 0, 0, s⟩

/-- How many characters are left. -/
def left (cur : Cursor) : Nat := cur.size - cur.index

/-- The place after one character. The mark of the order of bytes takes no column. -/
def next (cur : Cursor) : Cursor :=
  match cur.rest with
  | [] => cur
  | c :: rest =>
    let column := if isBreak c then 0 else if c == '\uFEFF' then cur.column else cur.column + 1
    { cur with
      index := cur.index + 1
      line := if isBreak c then cur.line + 1 else cur.line
      column := column
      rest := rest }

/-- The place after `n` characters. -/
def advance (cur : Cursor) : Nat → Cursor
  | 0 => cur
  | n + 1 => cur.next.advance n

/-- The place after all characters of a kind. -/
def skipWhile (cur : Cursor) (kind : Char → Bool) : Cursor :=
  cur.advance (cur.rest.takeWhile kind).length

/-- Skips spaces on the line. -/
def skipSpaces (cur : Cursor) : Cursor := cur.skipWhile (· == ' ')

/-- The end of the line. -/
def lineEnd (cur : Cursor) : Cursor := cur.skipWhile fun c => !isBreak c

/-- Skips a comment, if one starts here. -/
def skipComment (cur : Cursor) : Cursor := if cur.rest.head? == some '#' then cur.lineEnd else cur

/-- Whether the line ends here and another one follows. -/
def atBreak (cur : Cursor) : Bool := cur.rest.head?.any isBreak

/-- The place after spaces, comments and line breaks, and whether there were breaks. -/
def skipGapFrom (cur : Cursor) (inComment broke : Bool) : List Char → Cursor × Bool
  | [] => ({ cur with rest := [] }, broke)
  | c :: s =>
    let index := cur.index + 1
    if isBreak c then
      skipGapFrom { cur with index := index, line := cur.line + 1, column := 0 } false true s
    else if inComment || c == '#' then
      skipGapFrom { cur with index := index, column := cur.column + 1 } true broke s
    else if c == ' ' then
      skipGapFrom { cur with index := index, column := cur.column + 1 } false broke s
    else ({ cur with rest := c :: s }, broke)

/-- The place of the next token, and whether it is on another line. -/
def skipGap (cur : Cursor) : Cursor × Bool := skipGapFrom cur false false cur.rest

/-- Whether three dashes, or three points, stand here at the start of a line. -/
def atMark (cur : Cursor) (mark : Char) : Bool :=
  cur.column == 0 &&
    (match cur.rest with
      | a :: b :: c :: s => a == mark && b == mark && c == mark && separated s
      | _ => false)

/-- Whether the document ends here. -/
def atEnd (cur : Cursor) : Bool := cur.rest.isEmpty || cur.atMark '-' || cur.atMark '.'

end Cursor

end FormPress.Yaml
