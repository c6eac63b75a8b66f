/-
  FormPress.Data.Yaml.Plain

  What a scalar without quotes and without a tag is marked as, by its text alone:
  a null, a truth value, a whole number in one of five notations, a double, a
  time, or else a text (`Tag.ofPlain`). A line break at the end of the text is
  passed over.
-/
import FormPress.Data.Yaml.Tag
import FormPress.Text.Numeral

namespace FormPress.Yaml

open FormPress.Json (isDigit hexValue?)

/-! ## Words -/

/-- The words for null. -/
def nullWords : List String := ["~", "null", "Null", "NULL"]

/-- The words for truth and falsehood. -/
def truthWords : List String :=
  ["yes", "Yes", "YES", "no", "No", "NO", "true", "True", "TRUE", "false", "False", "FALSE",
    "on", "On", "ON", "off", "Off", "OFF"]

/-! ## Numbers -/

/-- The text without a sign in front. -/
def unsigned (s : List Char) : List Char := (Numeral.splitSign s).2

/-- Whether a text is made of the given digits and underscores, at least one character. -/
def digitRun (isDigit : Char → Bool) (s : List Char) : Bool :=
  !s.isEmpty && s.all fun c => isDigit c || c == '_'

/-- Whether a text is made of digits and underscores, the first character a digit. -/
def startsAsRun (s : List Char) : Bool := s.head?.any isDigit && digitRun isDigit s

/-- The texts between colons. -/
def splitColons : List Char → List Char → List (List Char)
  | acc, [] => [acc.reverse]
  | acc, ':' :: s => acc.reverse :: splitColons [] s
  | acc, c :: s => splitColons (c :: acc) s

/-- Whether a text is a number below sixty of one or two digits. -/
def isSixtieth : List Char → Bool
  | [a] => isDigit a
  | [a, b] => '0' ≤ a && a ≤ '5' && isDigit b
  | _ => false

/-- Whether a text is a number in base sixty, its places between colons. -/
def isSexagesimal (s : List Char) : Bool :=
  match splitColons [] s with
  | first :: rest@(_ :: _) => startsAsRun first && rest.all isSixtieth
  | _ => false

/-- Whether a text is a whole number: binary, octal, decimal, hexadecimal or in base sixty. -/
def isWhole (s : List Char) : Bool :=
  match unsigned s with
  | '0' :: 'b' :: t => digitRun (fun c => c == '0' || c == '1') t
  | '0' :: 'x' :: t => digitRun (fun c => (hexValue? c).isSome) t
  | ['0'] => true
  | '0' :: t => digitRun (fun c => '0' ≤ c && c ≤ '7') t
  | t => startsAsRun t || isSexagesimal t

/-- Whether a text is an exponent, which has a sign, or empty. -/
def isExponent : List Char → Bool
  | [] => true
  | e :: sign :: t =>
    (e == 'e' || e == 'E') && (sign == '+' || sign == '-') && !t.isEmpty && t.all isDigit
  | _ => false

/-- Whether a text is a decimal with a point. The whole part may be empty only without a sign, and
    then the fraction begins with a digit; it may be in base sixty if there is no exponent. -/
def isPointed (s : List Char) : Bool :=
  let t := unsigned s
  let whole := t.takeWhile (· != '.')
  match t.drop whole.length with
  | '.' :: rest =>
    let fraction := rest.takeWhile fun c => isDigit c || c == '_'
    let tail := rest.drop fraction.length
    if whole.isEmpty then t.length == s.length && fraction.head?.any isDigit && isExponent tail
    else (startsAsRun whole && isExponent tail) || (isSexagesimal whole && tail.isEmpty)
  | _ => false

/-- Whether a text is one of the words for doubles that are no finite numbers. -/
def isSpecialDouble (s : List Char) : Bool :=
  [".inf", ".Inf", ".INF"].contains (String.ofList (unsigned s)) ||
    [".nan", ".NaN", ".NAN"].contains (String.ofList s)

/-! ## Times -/

/-- The parts of a written time. -/
structure TimeText where
  year : Nat
  month : Nat
  day : Nat
  /-- whether month and day have two digits each -/
  padded : Bool
  /-- hour, minute and second, and the digits of a fraction -/
  clock : Option (Nat × Nat × Nat × List Char)
  /-- the distance from universal time in seconds -/
  offset : Option Int
  deriving Repr

/-- One or two digits in front, and the text after them. -/
def shortNumber? (s : List Char) : Option (List Char × List Char) :=
  let digits := (s.take 2).takeWhile isDigit
  if digits.isEmpty then none else some (digits, s.drop digits.length)

/-- Exactly two digits in front, and the text after them. -/
def twoDigits? (s : List Char) : Option (Nat × List Char) := do
  let (digits, rest) ← shortNumber? s
  guard (digits.length == 2)
  some (Json.digitsValue digits, rest)

/-- The text after a character. -/
def after? (c : Char) : List Char → Option (List Char)
  | d :: s => if d == c then some s else none
  | [] => none

/-- The distance from universal time at the end of a written time: none at all, the letter for
    zero, or hours with minutes or without. -/
def offsetAt? (s : List Char) : Option (Option Int) :=
  match s with
  | [] => some none
  | _ =>
    match s.dropWhile isInlineBlank with
    | ['Z'] => some (some 0)
    | sign :: t => do
      guard (sign == '+' || sign == '-')
      let (hours, rest) ← shortNumber? t
      let (minutes, rest) ← match rest with
        | ':' :: u => twoDigits? u
        | u => some (0, u)
      guard rest.isEmpty
      let seconds := (Json.digitsValue hours * 60 + minutes) * 60
      some (some (Numeral.negateIf (sign == '-') seconds))
    | [] => none

/-- The fraction of a second, and the text after it. -/
def fractionAt : List Char → List Char × List Char
  | '.' :: t =>
    let digits := t.takeWhile isDigit
    (digits, t.drop digits.length)
  | t => ([], t)

/-- The time of day at the end of a written time. -/
def clockAt? (s : List Char) : Option ((Nat × Nat × Nat × List Char) × Option Int) := do
  let s ← match s with
    | c :: t =>
      if c == 'T' || c == 't' then some t
      else if isInlineBlank c then some (t.dropWhile isInlineBlank) else none
    | [] => none
  let (hour, s) ← shortNumber? s
  let s ← after? ':' s
  let (minute, s) ← twoDigits? s
  let s ← after? ':' s
  let (second, s) ← twoDigits? s
  let (fraction, s) := fractionAt s
  let offset ← offsetAt? s
  some ((Json.digitsValue hour, minute, second, fraction), offset)

/-- The time that a text writes: a day, or a day and a time of day. -/
def timeText? (s : List Char) : Option TimeText := do
  let year := s.take 4
  guard (year.length == 4 && year.all isDigit)
  let s ← after? '-' (s.drop 4)
  let (month, s) ← shortNumber? s
  let s ← after? '-' s
  let (day, s) ← shortNumber? s
  let parts := TimeText.mk (Json.digitsValue year) (Json.digitsValue month) (Json.digitsValue day)
    (month.length == 2 && day.length == 2)
  if s.isEmpty then some (parts none none)
  else do
    let (clock, offset) ← clockAt? s
    some (parts (some clock) offset)

/-- Whether a text is a time: a day alone has two digits for month and day. -/
def isTime (s : List Char) : Bool := (timeText? s).any fun t => t.padded || t.clock.isSome

/-! ## Resolution -/

/-- The text without a line feed at its end. -/
def dropFinalBreak (s : List Char) : List Char :=
  if s.getLast? == some '\n' then s.dropLast else s

/-- What a scalar with that text is marked as. -/
def Tag.ofPlain (s : String) : Tag :=
  let cs := dropFinalBreak s.toList
  let word := String.ofList cs
  if s == "" || nullWords.contains word then .null
  else if truthWords.contains word then .bool
  else if isWhole cs then .int
  else if isPointed cs || isSpecialDouble cs then .float
  else if isTime cs then .timestamp
  else if word == "<<" then .merge
  else if word == "=" then .value
  else if ["!", "&", "*"].contains word then .unknown
  else .str

end FormPress.Yaml
