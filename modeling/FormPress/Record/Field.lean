/-
  FormPress.Record.Field

  What a field of each kind accepts. Whole numbers and truth values are also
  read from texts and from numbers that stand for them; a text is only a text.
-/
import FormPress.Data.Table
import FormPress.Record.Check
import FormPress.Text.Numeral

namespace FormPress.Read

open FormPress.Json (isDigit digitsValue)

/-! ## Texts -/

/-- Any value at all. -/
def any (v : Value) : Check Value := .fits v

/-- The text that bytes make. -/
def decoded? (bs : List UInt8) : Option String := String.fromUTF8? ⟨bs.toArray⟩

/-- A text, also one given as bytes. -/
def text : Value → Check String
  | .text s => .fits s
  | .scalar (.bytes bs) =>
    match decoded? bs with
    | some s => .fits s
    | none => .misfit .notCharacters
  | _ => .misfit .notText

/-- The characters of a text, which may be given as bytes; bytes that make no text are the misfit
    `broken`. None if the value is neither. -/
def characters? (broken : Misfit) : Value → Option (Check (List Char))
  | .text s => some (if Text.hasHalf s then .misfit .notCharacters else .fits s.toList)
  | .scalar (.bytes bs) =>
    some (match decoded? bs with
      | some s => .fits s.toList
      | none => .misfit broken)
  | _ => none

/-- What is read of a text, or of bytes that make one. -/
def fromText {α : Type} (broken : Misfit) (read : List Char → Check α) (v : Value) :
    Option (Check α) :=
  (characters? broken v).map fun c =>
    match c with
    | .fits s => read s
    | .faults fs => .faults fs

/-- Null, or what `read` accepts. -/
def nullable {α : Type} (read : Value → Check α) (v : Value) : Check (Option α) :=
  if v.isNull then .fits none else read v |>.map some

/-- Whether a scalar is no whole number of too many digits. -/
def isWritableScalar : Scalar → Bool
  | .number (.int n) => n.natAbs < Nat.pow 10 Json.digitLimit
  | _ => true

mutual

/-- Whether no whole number in a value has too many digits. -/
def isWritable : Value → Bool
  | .scalar s => isWritableScalar s
  | .list items => itemsWritable items
  | .object fields => fieldsWritable fields
  | .pair a b => isWritable a && isWritable b
  | .set items => items.all isWritableScalar

/-- Whether no whole number in some items has too many digits. -/
def itemsWritable : List Value → Bool
  | [] => true
  | v :: vs => isWritable v && itemsWritable vs

/-- Whether no whole number in some fields has too many digits. -/
def fieldsWritable : Fields → Bool
  | [] => true
  | (key, v) :: fs => isWritableScalar key && isWritable v && fieldsWritable fs

end

/-- The display form of a value. -/
def display (v : Value) : Check String :=
  if isWritable v then .fits v.display else .misfit .unwritable

/-! ## Numbers written as texts -/

/-- Whether two underscores follow each other. -/
def doubleUnderscore : List Char → Bool
  | '_' :: '_' :: _ => true
  | _ :: s => doubleUnderscore s
  | [] => false

/-- Single underscores between other characters are dropped; all others stay. -/
def joinUnderscores (s : List Char) : List Char :=
  if s.head? == some '_' || s.getLast? == some '_' || doubleUnderscore s then s
  else s.filter (· != '_')

/-- What follows leading zeros and the underscores among them: a number from its first other digit
    or its minus sign on, and before a point one character more. Of nothing but zeros the last one
    stays. `last` is the character before this place. -/
def afterZeros (last : Char) : List Char → Option (List Char)
  | [] => some [last]
  | c :: s =>
    if c == '0' || c == '_' then afterZeros c s
    else if isDigit c || c == '-' then some (c :: s)
    else if c == '.' then some (last :: c :: s)
    else none

/-- The number without its leading zeros. -/
def dropLeadingZeros : List Char → Option (List Char)
  | [] => none
  | '0' :: s => afterZeros '0' s
  | c :: s => if isDigit c || c == '-' then some (c :: s) else none

/-- The text before a point that has only zeros after it, at least one. -/
def dropZeroFraction (s : List Char) : List Char :=
  let whole := s.takeWhile (· != '.')
  match s.drop (whole.length + 1) with
  | [] => s
  | zeros => if zeros.all (· == '0') then whole else s

/-- The number written by digits alone, with a minus sign or without. -/
def signedDigits? (s : List Char) : Option Int :=
  let (negative, digits) := match s with
    | '-' :: t => (true, t)
    | t => (false, t)
  if digits.isEmpty || !digits.all isDigit then none
  else some (Numeral.negateIf negative (digitsValue digits))

/-- The whole number that a text without spaces and without a plus sign stands for. -/
def wholeOfBody? (s : List Char) : Option Int :=
  let (sign, t) := match s with
    | '-' :: t => (['-'], t)
    | t => ([], t)
  (dropLeadingZeros t).bind fun t => signedDigits? (sign ++ joinUnderscores (dropZeroFraction t))

/-- The whole number that a text stands for: spaces around it, a plus sign, leading zeros, single
    underscores and a fraction of zeros are allowed. -/
def wholeOfText? (s : List Char) : Option Int :=
  match Numeral.stripped s with
  | '+' :: '-' :: _ => none
  | '+' :: t => wholeOfBody? t
  | t => wholeOfBody? t

/-- Whether a number has more characters than a whole number may have. -/
def isTooLong (s : List Char) : Bool := Json.digitLimit < (Numeral.stripped s).length

/-- The whole number that a text stands for, which may have a limited length. -/
def wholeText (s : List Char) : Check Int :=
  if isTooLong s then .misfit .tooLarge
  else
    match wholeOfText? s with
    | some n => .fits n
    | none => .misfit .notWholeText

/-- The decimal number written by a text without spaces. -/
def decimal? (negative : Bool) (s : List Char) : Option Float :=
  let whole := s.takeWhile isDigit
  let rest := s.drop whole.length
  let (fraction, rest) := match rest with
    | '.' :: t => (t.takeWhile isDigit, t.drop (t.takeWhile isDigit).length)
    | t => ([], t)
  if whole.isEmpty && fraction.isEmpty then none
  else
    match Json.readExponent rest with
    | (exponent, []) =>
      some (Decimal.nearestFloat negative (digitsValue (whole ++ fraction))
        (exponent.getD 0 - fraction.length))
    | _ => none

/-- The number that a text without spaces stands for, the words for infinity and for no number
    in any case included. -/
def float? (s : List Char) : Option Float :=
  let (negative, t) := match s with
    | '-' :: t => (true, t)
    | '+' :: t => (false, t)
    | t => (false, t)
  let word := String.ofList (t.map Char.toLower)
  if word == "inf" || word == "infinity" then
    some (Float.ofBits (if negative then 0xFFF0000000000000 else 0x7FF0000000000000))
  else if word == "nan" then some (Float.ofBits 0x7FF8000000000000)
  else decimal? negative t

/-- The number that a text stands for. -/
def floatOfText? (s : List Char) : Option Float :=
  match float? (Numeral.stripped s) with
  | some x => some x
  | none => float? (joinUnderscores s)

/-- The number that a text stands for, whole if it can be. -/
def numberText (s : List Char) : Check Number :=
  match wholeText s, floatOfText? s with
  | .fits n, _ => .fits (.int n)
  | .faults _, some x => .fits (.float x)
  | .faults fs, none =>
    .faults (fs.map (fun f => { f with place := [.field "int"] }) ++
      [⟨[.field "float"], .notNumberText⟩])

/-! ## Numbers -/

/-- Whether a whole number fits a signed 64-bit word. -/
def fitsWord (n : Int) : Bool := decide (-9223372036854775808 ≤ n) && decide (n < 9223372036854775808)

/-- The whole number that a double stands for. The least 64-bit word is out of its reach as the
    doubles beyond the range of words are. -/
def wholeOfFloat (x : Float) : Check Int :=
  match Decimal.Shape.ofFloat x with
  | .finite b =>
    match b.toInt? with
    | some n => if n.natAbs < 9223372036854775808 then .fits n else .misfit .tooLarge
    | none => .misfit .fractional
  | _ => .misfit .notFinite

/-- A whole number: a number without a fraction, a truth value as one or zero, or the text of a
    whole number. -/
def whole : Value → Check Int
  | .int n => .fits n
  | .bool b => .fits (if b then 1 else 0)
  | .float x => wholeOfFloat x
  | v => (fromText .notWholeText wholeText v).getD (.misfit .notWhole)

/-- A fault for each of the two readings of a number. -/
def neitherNumber {α : Type} (asWhole asDouble : Misfit) : Check α :=
  .faults [⟨[.field "int"], asWhole⟩, ⟨[.field "float"], asDouble⟩]

/-- A number that keeps its kind; a text becomes a whole number if it stands for one. A value of
    another kind has a fault for each of the two readings. -/
def number : Value → Check Number
  | .int n => .fits (.int n)
  | .float x => .fits (.float x)
  | .bool b => .fits (.int (if b then 1 else 0))
  | v =>
    match characters? .notWholeText v with
    | some (.fits s) => numberText s
    | some (.faults _) =>
      match v with
      | .text _ => neitherNumber .notCharacters .notCharacters
      | _ => neitherNumber .notWholeText .notNumberText
    | none => neitherNumber .notWhole .notNumber

/-! ## Truth values -/

/-- The words for truth. -/
def trueWords : List String := ["1", "on", "t", "true", "y", "yes"]

/-- The words for falsehood. -/
def falseWords : List String := ["0", "off", "f", "false", "n", "no"]

/-- The truth value of one and zero. -/
def truthOfNumber (n : Int) : Check Bool :=
  if n == 1 then .fits true else if n == 0 then .fits false else .misfit .notTruthWord

/-- The truth value of a word in any case. -/
def truthText (s : List Char) : Check Bool :=
  let word := String.ofList (s.map Char.toLower)
  if trueWords.contains word then .fits true
  else if falseWords.contains word then .fits false
  else .misfit .notTruthWord

/-- A truth value, one or zero, or a word for it in any case. -/
def truth : Value → Check Bool
  | .bool b => .fits b
  | .int n => if fitsWord n then truthOfNumber n else .misfit .notTruth
  | .float x =>
    match wholeOfFloat x with
    | .fits n => truthOfNumber n
    | .faults _ => .misfit .notTruth
  | v => (fromText .notTruthWord truthText v).getD (.misfit .notTruth)

/-! ## Choices and collections -/

/-- One of the words of a choice. -/
def choice {α : Type} (ofWord : String → Option α) : Value → Check α
  | .text s =>
    match ofWord s with
    | some a => .fits a
    | none => .misfit .notChoice
  | _ => .misfit .notChoice

/-- A list of what `read` accepts; pairs and sets are lists as well. -/
def listOf {α : Type} (read : Value → Check α) : Value → Check (List α)
  | .list items => Check.items read 0 items
  | .pair a b => Check.items read 0 [a, b]
  | .set items => Check.items read 0 (items.map .scalar)
  | _ => .misfit .notList

/-- A list of texts. -/
def texts : Value → Check (List String) := listOf text

/-- An object whose fields all hold what `read` accepts, each name once. -/
def entriesOf {α : Type} (read : Value → Check α) : Value → Check (Table String α)
  | .object fields =>
    (Check.entries read fields).map fun es => es.foldl (fun t e => t.put e.1 e.2) []
  | _ => .misfit .notObject

/-- An object with any fields that have names. -/
def fieldsOf (v : Value) : Check Fields :=
  (entriesOf any v).map fun es => es.map fun e => (.text e.1, e.2)

/-- A record. -/
def record {α : Type} (read : Fields → Check α) : Value → Check α
  | .object fields => read fields
  | _ => .misfit .notRecord

end FormPress.Read
