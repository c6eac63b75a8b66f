/-
  FormPress.Text.Numeral

  Numbers as they are written by hand: white space around them, a sign, digits
  of any script and single underscores between the digits. A whole number may
  be written in another base than ten (`wholeIn?`), and one in base ten may not
  have more digits than `Json.digitLimit`.
-/
import FormPress.Data.Json
import FormPress.Text.Blank
import FormPress.Text.Digit

namespace FormPress.Numeral

/-! ## Surroundings -/

/-- White space around a number. -/
def isSpace (c : Char) : Bool := Text.isBlank c && !(28 ≤ c.toNat && c.toNat ≤ 31)

/-- The text without white space around it. -/
def stripped (s : List Char) : List Char :=
  ((s.dropWhile isSpace).reverse.dropWhile isSpace).reverse

/-- Cuts off a sign, and says whether it was a minus. -/
def splitSign : List Char → Bool × List Char
  | '-' :: s => (true, s)
  | '+' :: s => (false, s)
  | s => (false, s)

/-- Negates a number if told to. -/
def negateIf (negative : Bool) (n : Nat) : Int := if negative then -(n : Int) else n

/-! ## Digits -/

/-- The value of a digit: a decimal one of any script, or a letter after nine. -/
def digitValue? (c : Char) : Option Nat :=
  match Text.digit? c with
  | some n => some n
  | none => Json.hexValue? c

/-- The digits of a text that has an underscore at most between two of them. -/
def digitsOf? (afterDigit : Bool) : List Char → Option (List Char)
  | [] => if afterDigit then some [] else none
  | '_' :: s => if afterDigit then digitsOf? false s else none
  | c :: s => (digitsOf? true s).map (c :: ·)

/-- The number written in a base by digits alone. -/
def valueIn? (base : Nat) (digits : List Char) : Option Nat :=
  digits.foldl
    (fun n c => do
      let n ← n
      let d ← digitValue? c
      if d < base then some (n * base + d) else none)
    (some 0)

/-! ## Whole numbers -/

/-- The letters that may mark a base after a zero. -/
def baseMarks (base : Nat) : List Char :=
  if base == 2 then ['b', 'B'] else if base == 8 then ['o', 'O']
  else if base == 16 then ['x', 'X'] else []

/-- The text after the mark of its base, which may have an underscore after it. -/
def dropMark (base : Nat) : List Char → List Char
  | '0' :: c :: s =>
    if (baseMarks base).contains c then
      (match s with | '_' :: t => t | s => s)
    else '0' :: c :: s
  | s => s

/-- The whole number that a text writes in a base. -/
def wholeIn? (base : Nat) (s : List Char) : Option Int := do
  let (negative, body) := splitSign (stripped s)
  let digits ← digitsOf? false (dropMark base body)
  if base == 10 && Json.digitLimit < digits.length then none
  else (valueIn? base digits).map (negateIf negative)

/-- The whole number that a text writes in base ten. -/
def whole? (s : List Char) : Option Int := wholeIn? 10 s

/-! ## Doubles -/

/-- A double from its parts. -/
def double (negative : Bool) (whole fraction : Nat) (places : Nat) (exponent : Int) : Float :=
  Decimal.nearestFloat negative (whole * Nat.pow 10 places + fraction) (exponent - places)

/-- The words for the doubles that are no finite numbers. -/
def specialDouble? (negative : Bool) (word : String) : Option Float :=
  if word == "inf" || word == "infinity" then
    some (Float.ofBits (if negative then 0xFFF0000000000000 else 0x7FF0000000000000))
  else if word == "nan" then some (Float.ofBits 0x7FF8000000000000)
  else none

/-- Digits, perhaps none, with their value. -/
def run? (s : List Char) : Option (Nat × Nat) :=
  if s.isEmpty then some (0, 0)
  else do
    let digits ← digitsOf? false s
    let n ← valueIn? 10 digits
    some (n, digits.length)

/-- The exponent after its letter; no letter is the exponent zero. -/
def exponent? : List Char → Option Int
  | [] => some 0
  | _ :: t => do
    let (negative, digits) := splitSign t
    let digits ← digitsOf? false digits
    (valueIn? 10 digits).map (negateIf negative)

/-- The finite double that a text without sign and spaces writes. -/
def decimal? (negative : Bool) (s : List Char) : Option Float := do
  let mantissa := s.takeWhile fun c => c != 'e' && c != 'E'
  let exponent ← exponent? (s.drop mantissa.length)
  let wholePart := mantissa.takeWhile (· != '.')
  let (whole, wholeDigits) ← run? wholePart
  let (fraction, places) ← run? (mantissa.drop (wholePart.length + 1))
  if wholeDigits + places == 0 then none
  else some (double negative whole fraction places exponent)

/-- The double that a text writes. -/
def double? (s : List Char) : Option Float :=
  let (negative, body) := splitSign (stripped s)
  match specialDouble? negative (String.ofList (body.map Char.toLower)) with
  | some x => some x
  | none => decimal? negative body

end FormPress.Numeral
