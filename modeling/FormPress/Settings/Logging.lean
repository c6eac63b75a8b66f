/-
  FormPress.Settings.Logging

  How notes are taken: the number of the least grave notes that are kept
  (`LogSettings.threshold`), and the lines in which they are written, which need
  a place for some part of a note (`isLineFormat`).
-/
import FormPress.Failure
import FormPress.Settings.Basic
import FormPress.Text.Digit
import FormPress.Text.Search

namespace FormPress

/-! ## Levels -/

/-- A letter as a capital, where that can make a level's name. -/
def capitalLetter (c : Char) : Char :=
  if c == 'ı' then 'I' else if c == 'ſ' then 'S' else c.toUpper

/-- What a level's name stands for. -/
inductive LevelMeaning where
  | least (number : Nat)
  /-- the format of notes that name nothing else -/
  | plainFormat
  /-- the ways in which formats can be written -/
  | formatStyles
  deriving Repr, DecidableEq, Inhabited

/-- What a level's name in capitals stands for; one without a meaning stands for information. -/
def levelMeaning : String → LevelMeaning
  | "NOTSET" => .least 0
  | "DEBUG" => .least 10
  | "WARNING" => .least 30
  | "WARN" => .least 30
  | "ERROR" => .least 40
  | "CRITICAL" => .least 50
  | "FATAL" => .least 50
  | "BASIC_FORMAT" => .plainFormat
  | "_STYLES" => .formatStyles
  | _ => .least 20

/-- The number of the least grave notes that are kept; a name that stands for something else than a
    level does not do. -/
def LogSettings.threshold (s : LogSettings) : Except Failure Nat :=
  match levelMeaning (String.ofList (s.level.toList.map capitalLetter)) with
  | .least number => .ok number
  | .plainFormat => .error (.meaningless s.level)
  | .formatStyles => .error (.misuse (.asLevel "dict"))

/-! ## Formats of lines -/

/-- The text after a width or a precision: a star, or digits, of which there are at least one. -/
def afterWidth? : List Char → Option (List Char)
  | '*' :: s => some s
  | c :: s => if Text.isDecimal c then some (s.dropWhile Text.isDecimal) else none
  | [] => none

/-- The text after a precision, if it begins with one. -/
def afterPrecision (s : List Char) : List Char :=
  match s with
  | '.' :: t => (afterWidth? t).getD s
  | s => s

/-- Whether a text begins with flags, width, precision and the letter of a conversion. -/
def isConversion (s : List Char) : Bool :=
  let s := s.dropWhile fun c => "#0+ -".toList.contains c
  match afterPrecision ((afterWidth? s).getD s) with
  | c :: _ => "diouxefgcrsa%".toList.any fun letter => Text.sameLetter letter c
  | [] => false

/-- Whether a text begins with the place of a named part. -/
def isNamedPlace : List Char → Bool
  | '%' :: '(' :: s =>
    let name := s.takeWhile Text.isWord
    match s.drop name.length with
    | ')' :: t => !name.isEmpty && isConversion t
    | _ => false
  | _ => false

/-- Whether there is the place of a named part somewhere in a text. -/
def holdsNamedPlace : List Char → Bool
  | [] => false
  | c :: s => isNamedPlace (c :: s) || holdsNamedPlace s

/-- Whether a text is the format of a line; the empty text stands for a standard one. -/
def isLineFormat (s : String) : Bool := s == "" || holdsNamedPlace s.toList

/-- The number of the least grave notes that are kept, once notes can be taken. -/
def LogSettings.start (s : LogSettings) : Except Failure Nat :=
  if isLineFormat s.format then s.threshold else .error (.meaningless s.format)

end FormPress
