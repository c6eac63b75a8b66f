/-
  FormPress.Data.Written

  Three written forms of values: the text of a scalar as it is shown in a
  document (`Value.shown`), the display form of any value (`Value.display`), and
  the form of a value inside another one (`Value.inspect`), where texts are
  quoted.
-/
import FormPress.Data.Value
import FormPress.Decimal.Layout
import FormPress.Text.Case
import FormPress.Text.Half
import FormPress.Text.WordTable

namespace FormPress

/-! ## Text of scalars in a document -/

/-- A whole number is written without a fraction, however it was stored; any other number with
    the fewest digits that read back. A whole number may have any number of digits here: that one
    with more than `Json.digitLimit` of them is refused when it is written is left out. -/
def Number.text : Number → String
  | .int n => toString n
  | .float x =>
    match Decimal.Shape.ofFloat x with
    | .finite b =>
      match b.toInt? with
      | some n => toString n
      | none => Decimal.Layout.plain.float x
    | _ => Decimal.Layout.plain.float x

/-- The words for truth values in a document. -/
def truthText (b : Bool) : String := if b then "true" else "false"

/-- The text of a scalar in a document; null, times and bytes are blank. -/
def Scalar.shown : Scalar → String
  | .null => ""
  | .bool b => truthText b
  | .number n => n.text
  | .text s => s
  | _ => ""

/-- The text of a value in a document: collections are blank. -/
def Value.shown : Value → String
  | .scalar s => s.shown
  | _ => ""

/-! ## Quoted texts -/

/-- Whether a character is written as itself between quotes. -/
def isPrintable (c : Char) : Bool := !Text.inRanges Text.unprintableRanges c.toNat

/-- A code point in hexadecimal, padded to `width` digits. -/
def hexDigits (width n : Nat) : List Char := Decimal.padLeft width (Nat.toDigits 16 n)

/-- The four digits of the half of a pair that a character stands in for. -/
def halfDigits? (c : Char) : Option (List Char) := (Text.half? c).map (hexDigits 4)

/-- A text with an escape for each half of a character. -/
def escapeHalves (s : String) : String :=
  String.ofList (s.toList.flatMap fun c =>
    match halfDigits? c with
    | some digits => '\\' :: 'u' :: digits
    | none => [c])

/-- A character between quotes of the given kind. -/
def quotedChar (quote c : Char) : List Char :=
  if let some digits := halfDigits? c then ['\\', 'u'] ++ digits
  else if c == quote || c == '\\' then ['\\', c]
  else if c == '\n' then ['\\', 'n']
  else if c == '\r' then ['\\', 'r']
  else if c == '\t' then ['\\', 't']
  else if isPrintable c then [c]
  else if c.toNat < 0x100 then ['\\', 'x'] ++ hexDigits 2 c.toNat
  else if c.toNat < 0x10000 then ['\\', 'u'] ++ hexDigits 4 c.toNat
  else ['\\', 'U'] ++ hexDigits 8 c.toNat

/-- A text between quotes: double ones only where it holds single ones and no double one. -/
def quotedText (s : String) : String :=
  let cs := s.toList
  let quote := if cs.contains '\'' && !cs.contains '"' then '"' else '\''
  String.ofList (quote :: cs.flatMap (quotedChar quote) ++ [quote])

/-- A byte between quotes of the given kind. -/
def quotedByte (quote : Char) (b : UInt8) : List Char :=
  let c := Char.ofNat b.toNat
  if 32 ≤ b.toNat && b.toNat < 127 || c == '\n' || c == '\r' || c == '\t' then quotedChar quote c
  else ['\\', 'x'] ++ hexDigits 2 b.toNat

/-- Bytes between quotes, which are chosen as those of a text are, after a letter that tells
    them apart. -/
def quotedBytes (bs : List UInt8) : String :=
  let quote := if bs.contains 39 && !bs.contains 34 then '"' else '\''
  String.ofList ('b' :: quote :: bs.flatMap (quotedByte quote) ++ [quote])

/-! ## Days and points in time inside other values -/

/-- Numbers with commas between them. -/
def listed (ns : List Nat) : String := ", ".intercalate (ns.map toString)

/-- The parts of a day. -/
def Day.parts (d : Day) : List Nat := [d.year, d.month, d.day]

/-- The form of a day inside another value. -/
def Day.inspect (d : Day) : String := "datetime.date(" ++ listed d.parts ++ ")"

/-- The form of a distance from universal time. -/
def Moment.inspectOffset (seconds : Int) : String :=
  let days := seconds.fdiv Moment.daySeconds
  let rest := seconds.fmod Moment.daySeconds
  let parts := (if days == 0 then [] else ["days=" ++ toString days]) ++
    (if rest == 0 then [] else ["seconds=" ++ toString rest])
  if seconds == 0 then "datetime.timezone.utc"
  else "datetime.timezone(datetime.timedelta(" ++ ", ".intercalate parts ++ "))"

/-- The form of a point in time inside another value: seconds and their fraction stand there only
    if they are needed. -/
def Moment.inspect (m : Moment) : String :=
  let fine := if m.micros != 0 then [m.second, m.micros] else if m.second != 0 then [m.second] else []
  let zone := (m.offset.map fun o => ", tzinfo=" ++ inspectOffset o).getD ""
  "datetime.datetime(" ++ listed (m.day.parts ++ [m.hour, m.minute] ++ fine) ++ zone ++ ")"

/-! ## Display -/

/-- The form of a scalar inside a list or an object. -/
def Scalar.inspect : Scalar → String
  | .null => "None"
  | .bool b => if b then "True" else "False"
  | .number (.int n) => toString n
  | .number (.float x) => Decimal.Layout.plain.float x
  | .text s => quotedText s
  | .day d => d.inspect
  | .moment m => m.inspect
  | .bytes bs => quotedBytes bs
  | .ring _ isList => if isList then "[...]" else "\x7b...\x7d"

/-- The display form of a scalar: a text is itself, and times have their written form. -/
def Scalar.display : Scalar → String
  | .text s => s
  | .day d => d.text
  | .moment m => m.text
  | s => s.inspect

mutual

/-- The form of a value inside a list or an object. -/
def Value.inspect : Value → String
  | .scalar s => s.inspect
  | .list items => "[" ++ ", ".intercalate (Value.inspectItems items) ++ "]"
  | .object fields => "\x7b" ++ ", ".intercalate (Value.inspectFields fields) ++ "\x7d"
  | .pair a b => "(" ++ a.inspect ++ ", " ++ b.inspect ++ ")"
  | .set [] => "set()"
  | .set items => "\x7b" ++ ", ".intercalate (items.map Scalar.inspect) ++ "\x7d"

/-- The forms of the items of a list. -/
def Value.inspectItems : List Value → List String
  | [] => []
  | v :: vs => v.inspect :: Value.inspectItems vs

/-- The forms of the fields of an object. -/
def Value.inspectFields : Fields → List String
  | [] => []
  | (k, v) :: fs => (k.inspect ++ ": " ++ v.inspect) :: Value.inspectFields fs

end

/-- The display form of a value: a text is itself, lists and objects show their parts. -/
def Value.display : Value → String
  | .scalar s => s.display
  | v => v.inspect

end FormPress
