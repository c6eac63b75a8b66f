/-
  FormPress.Data.Yaml.Flow

  Scalars that run on over lines: unquoted ones, and those in single or double
  quotes. A line break inside is folded to a space, and further breaks are kept.
-/
import FormPress.Data.Fault
import FormPress.Data.Json
import FormPress.Data.Yaml.Cursor
import FormPress.Text.Half

namespace FormPress.Yaml

/-! ## Folding -/

/-- The text of a line break: the two special separators stand for themselves. -/
def breakText (c : Char) : Char := if c == '\u2028' || c == '\u2029' then c else '\n'

/-- The breaks from here on with the blanks around them skipped, the first break included, and
    the place after them, at the latest the mark of another document; `blank` says what is
    skipped. -/
def takeBreaks (blank : Char → Bool) : Nat → List Char → Cursor → List Char × Cursor
  | 0, acc, cur => (acc.reverse, cur)
  | fuel + 1, acc, cur =>
    match cur.rest with
    | c :: s =>
      if c == '\r' && s.head? == some '\n' then takeBreaks blank fuel acc { cur with rest := s }
      else if isBreak c then
        if cur.next.atMark '-' || cur.next.atMark '.' then ((breakText c :: acc).reverse, cur.next)
        else takeBreaks blank fuel (breakText c :: acc) cur.next
      else if blank c then takeBreaks blank fuel acc cur.next
      else (acc.reverse, cur)
    | [] => (acc.reverse, cur)

/-- What a run of breaks is folded to. -/
def foldBreaks : List Char → List Char
  | [] => []
  | ['\n'] => [' ']
  | '\n' :: more => more
  | breaks => breaks

/-! ## Unquoted scalars -/

/-- Characters that cannot start an unquoted scalar. -/
def indicators : List Char :=
  ['-', '?', ':', ',', '[', ']', '\x7b', '\x7d', '#', '&', '*', '!', '|', '>', '\'', '"', '%', '@',
    '\x60']

/-- Brackets and the comma, which end an unquoted scalar inside a flow collection. -/
def isFlowIndicator (c : Char) : Bool :=
  c == ',' || c == '[' || c == ']' || c == '\x7b' || c == '\x7d'

/-- Whether an unquoted scalar can start with this text. -/
def startsPlain (inFlow : Bool) : List Char → Bool
  | [] => false
  | c :: s =>
    (!indicators.contains c && !isSeparator c) ||
      (!separated s && (c == '-' || (!inFlow && (c == '?' || c == ':'))))

/-- The characters of an unquoted scalar up to the next separator or end. -/
def plainRun (inFlow : Bool) : List Char → List Char
  | [] => []
  | c :: s =>
    if isSeparator c then []
    else if c == ':' && (separated s || (inFlow && s.head?.any isFlowIndicator)) then []
    else if inFlow && (isFlowIndicator c || c == '?') then []
    else c :: plainRun inFlow s

/-- An unquoted scalar: its text, the place of the next token, and whether lines lie between. -/
structure Plain where
  text : List Char
  after : Cursor
  brokeLine : Bool

/-- What separates the runs of an unquoted scalar: spaces, or folded breaks; nothing goes on after
    the mark of another document. -/
def plainGap (cur : Cursor) : Plain :=
  let spaced := cur.skipSpaces
  if spaced.atBreak then
    let (breaks, after) := takeBreaks (· == ' ') spaced.left [] spaced
    if after.atMark '-' || after.atMark '.' then ⟨[], after, true⟩
    else ⟨foldBreaks breaks, after, true⟩
  else ⟨List.replicate (spaced.column - cur.column) ' ', spaced, false⟩

/-- An unquoted scalar over as many lines as are indented by at least `least` columns; `acc` holds
    its runs so far in reverse, `gap` what is between them and this place. -/
def plainFrom (inFlow : Bool) (least : Nat) : Nat → List Char → Plain → Plain
  | 0, acc, gap => { gap with text := acc.reverse }
  | fuel + 1, acc, gap =>
    let cur := gap.after
    let run := if cur.rest.head? == some '#' then [] else plainRun inFlow cur.rest
    if run.isEmpty then { gap with text := acc.reverse }
    else
      let acc := run.reverse ++ gap.text.reverse ++ acc
      let gap := plainGap (cur.advance run.length)
      if gap.text.isEmpty || gap.after.rest.head? == some '#' ||
          (!inFlow && gap.after.column < least) then { gap with text := acc.reverse }
      else plainFrom inFlow least fuel acc gap

/-- The unquoted scalar that starts here. -/
def plainAt (inFlow : Bool) (least : Nat) (cur : Cursor) : Plain :=
  plainFrom inFlow least (cur.left + 1) [] ⟨[], cur, false⟩

/-! ## Quoted scalars -/

/-- A scalar in single quotes after its opening quote; a quote inside is written twice. -/
def singleQuoted : Nat → List Char → Cursor → Except DataFault (List Char × Cursor)
  | 0, _, _ => .error .malformed
  | fuel + 1, acc, cur =>
    match cur.rest with
    | [] => .error .malformed
    | '\'' :: '\'' :: _ => singleQuoted fuel ('\'' :: acc) (cur.advance 2)
    | '\'' :: _ => .ok (acc.reverse, cur.next)
    | c :: _ =>
      if isSeparator c then
        let blanks := cur.rest.takeWhile isInlineBlank
        let after := cur.advance blanks.length
        if after.atBreak then
          let (breaks, nextCur) := takeBreaks isInlineBlank after.left [] after
          if nextCur.atEnd then .error .malformed
          else singleQuoted fuel ((foldBreaks breaks).reverse ++ acc) nextCur
        else singleQuoted fuel (blanks.reverse ++ acc) after
      else singleQuoted fuel (c :: acc) cur.next

/-- The characters written by one letter after a backslash. -/
def escapeLetters : List (Char × Char) := [
  ('0', '\x00'), ('a', '\x07'), ('b', '\x08'), ('t', '\t'), ('\t', '\t'), ('n', '\n'),
  ('v', '\x0b'), ('f', '\x0c'), ('r', '\r'), ('e', '\x1b'), (' ', ' '), ('"', '"'),
  ('\\', '\\'), ('/', '/'), ('N', '\u0085'), ('_', '\u00a0'), ('L', '\u2028'), ('P', '\u2029')]

/-- The digits of a code point after a backslash and one of three letters. -/
def escapeWidth? (c : Char) : Option Nat :=
  if c == 'x' then some 2 else if c == 'u' then some 4 else if c == 'U' then some 8 else none

/-- The value of hexadecimal digits, if all characters are such. -/
def hexNumber? (s : List Char) : Option Nat :=
  s.foldl (fun n c => do some ((← n) * 16 + (← Json.hexValue? c))) (some 0)

/-- The character written by as many hexadecimal digits; there are none beyond the last plane. -/
def escapedChar (width : Nat) (s : List Char) : Except DataFault Char :=
  let digits := s.take width
  match hexNumber? digits with
  | none => .error .malformed
  | some n =>
    if digits.length != width then .error .malformed
    else if n < 0x110000 then .ok (Text.charOf n)
    else .error (if n < 0x80000000 then .notNumber else .beyondWords)

/-- A scalar in double quotes after its opening quote. -/
def doubleQuoted : Nat → List Char → Cursor → Except DataFault (List Char × Cursor)
  | 0, _, _ => .error .malformed
  | fuel + 1, acc, cur =>
    match cur.rest with
    | [] => .error .malformed
    | '"' :: _ => .ok (acc.reverse, cur.next)
    | '\\' :: e :: s =>
      match escapeLetters.find? (·.1 == e) with
      | some (_, c) => doubleQuoted fuel (c :: acc) (cur.advance 2)
      | none =>
        match escapeWidth? e with
        | some width =>
          match escapedChar width s with
          | .ok c => doubleQuoted fuel (c :: acc) (cur.advance (2 + width))
          | .error f => .error f
        | none =>
          if isBreak e then
            let (breaks, nextCur) := takeBreaks isInlineBlank cur.left [] cur.next
            if nextCur.atEnd then .error .malformed
            else doubleQuoted fuel ((breaks.drop 1).reverse ++ acc) nextCur
          else .error .malformed
    | c :: _ =>
      if isSeparator c then
        let blanks := cur.rest.takeWhile isInlineBlank
        let after := cur.advance blanks.length
        if after.atBreak then
          let (breaks, nextCur) := takeBreaks isInlineBlank after.left [] after
          if nextCur.atEnd then .error .malformed
          else doubleQuoted fuel ((foldBreaks breaks).reverse ++ acc) nextCur
        else doubleQuoted fuel (blanks.reverse ++ acc) after
      else doubleQuoted fuel (c :: acc) cur.next

/-- A scalar in quotes from its opening quote on. -/
def quotedAt (cur : Cursor) : Except DataFault (List Char × Cursor) :=
  match cur.rest with
  | '\'' :: _ => singleQuoted (cur.left + 1) [] cur.next
  | '"' :: _ => doubleQuoted (cur.left + 1) [] cur.next
  | _ => .error .malformed

end FormPress.Yaml
