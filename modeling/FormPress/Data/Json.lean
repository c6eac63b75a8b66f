/-
  FormPress.Data.Json

  Reading a JSON text. A number with a fraction or an exponent becomes a
  double, any other a whole number of at most `digitLimit` digits; the words for
  infinity and for no number are accepted; of two fields with one name the later
  value is kept in the earlier place. Collections may stand in each other up to
  `depthLimit` levels deep.
-/
import FormPress.Data.Fault
import FormPress.Data.Value
import FormPress.Text.Half

namespace FormPress.Json

/-! ## Tokens -/

/-- White space between tokens. -/
def isGap (c : Char) : Bool := c == ' ' || c == '\n' || c == '\r' || c == '\t'

/-- Drops the white space in front. -/
def skipGap (s : List Char) : List Char := s.dropWhile isGap

/-- The rest of the text after a fixed word. -/
def dropWord : List Char → List Char → Option (List Char)
  | [], s => some s
  | _ :: _, [] => none
  | w :: ws, c :: s => if w == c then dropWord ws s else none

/-- The value of a hexadecimal digit. -/
def hexValue? (c : Char) : Option Nat :=
  if '0' ≤ c ∧ c ≤ '9' then some (c.toNat - 48)
  else if 'a' ≤ c ∧ c ≤ 'f' then some (c.toNat - 87)
  else if 'A' ≤ c ∧ c ≤ 'F' then some (c.toNat - 55)
  else none

/-- Four hexadecimal digits and the text after them. -/
def readUnit : List Char → Option (Nat × List Char)
  | a :: b :: c :: d :: rest => do
    let a ← hexValue? a
    let b ← hexValue? b
    let c ← hexValue? c
    let d ← hexValue? d
    some (((a * 16 + b) * 16 + c) * 16 + d, rest)
  | _ => none

/-- The character of a surrogate pair. -/
def joinSurrogates (high low : Nat) : Char :=
  Char.ofNat (0x10000 + (high - 0xD800) * 0x400 + (low - 0xDC00))

/-- A character written as `\u` and four digits, together with a second unit if both are
    the halves of one pair. -/
def readEscapedUnit (s : List Char) : Option (Char × List Char) := do
  let (high, rest) ← readUnit s
  if 0xD800 ≤ high ∧ high ≤ 0xDBFF then
    match rest with
    | '\\' :: 'u' :: more =>
      match readUnit more with
      | some (low, rest') =>
        if 0xDC00 ≤ low ∧ low ≤ 0xDFFF then some (joinSurrogates high low, rest')
        else some (Text.charOf high, rest)
      | none => some (Text.charOf high, rest)
    | _ => some (Text.charOf high, rest)
  else some (Text.charOf high, rest)

/-- The character after a backslash. -/
def readEscape : List Char → Option (Char × List Char)
  | '"' :: s => some ('"', s)
  | '\\' :: s => some ('\\', s)
  | '/' :: s => some ('/', s)
  | 'b' :: s => some ('\x08', s)
  | 'f' :: s => some ('\x0c', s)
  | 'n' :: s => some ('\n', s)
  | 'r' :: s => some ('\r', s)
  | 't' :: s => some ('\t', s)
  | 'u' :: s => readEscapedUnit s
  | _ => none

/-- The characters of a string up to its closing quote, in reverse, and the text after it. -/
def readString : Nat → List Char → List Char → Option (List Char × List Char)
  | 0, _, _ => none
  | fuel + 1, acc, s =>
    match s with
    | '"' :: rest => some (acc.reverse, rest)
    | '\\' :: rest =>
      match readEscape rest with
      | some (c, rest') => readString fuel (c :: acc) rest'
      | none => none
    | c :: rest => if c.toNat < 32 then none else readString fuel (c :: acc) rest
    | [] => none

/-! ## Numbers -/

/-- Whether a character is an ASCII digit. -/
def isDigit (c : Char) : Bool := '0' ≤ c && c ≤ '9'

/-- The number written by decimal digits. -/
def digitsValue (digits : List Char) : Nat :=
  digits.foldl (fun n c => n * 10 + (c.toNat - 48)) 0

/-- The digits of the whole part: a zero stands alone. -/
def readWhole : List Char → Option (List Char × List Char)
  | '0' :: s => some (['0'], s)
  | s =>
    let digits := s.takeWhile isDigit
    if digits.isEmpty then none else some (digits, s.drop digits.length)

/-- The digits after a point, none where the point has no digit after it. -/
def readFraction : List Char → List Char × List Char
  | '.' :: s =>
    let digits := s.takeWhile isDigit
    if digits.isEmpty then ([], '.' :: s) else (digits, s.drop digits.length)
  | s => ([], s)

/-- The exponent, if a well-formed one follows. -/
def readExponent (s : List Char) : Option Int × List Char :=
  let unsigned (negative : Bool) (t : List Char) : Option Int × List Char :=
    let digits := t.takeWhile isDigit
    if digits.isEmpty then (none, s)
    else
      let n : Int := digitsValue digits
      (some (if negative then -n else n), t.drop digits.length)
  match s with
  | c :: t =>
    if c == 'e' || c == 'E' then
      match t with
      | '+' :: t => unsigned false t
      | '-' :: t => unsigned true t
      | t => unsigned false t
    else (none, s)
  | [] => (none, [])

/-- A number after its sign. -/
def readUnsigned (negative : Bool) (s : List Char) : Option (Number × List Char) := do
  let (whole, rest) ← readWhole s
  let (fraction, rest) := readFraction rest
  let (exponent, rest) := readExponent rest
  if fraction.isEmpty && exponent.isNone then
    let n : Int := digitsValue whole
    some (.int (if negative then -n else n), rest)
  else
    let scale : Int := exponent.getD 0 - fraction.length
    some (.float (Decimal.nearestFloat negative (digitsValue (whole ++ fraction)) scale), rest)

/-! ## Values -/

/-- How many digits a whole number may have. -/
def digitLimit : Nat := 4300

/-- How deeply collections may stand in each other. -/
def depthLimit : Nat := 990

/-- A part of a text as something, and the text after it. -/
abbrev Found (α : Type) := Except DataFault (α × List Char)

/-- What was found, if anything was. -/
def found {α : Type} : Option (α × List Char) → Found α
  | some a => .ok a
  | none => .error .malformed

/-- The infinite doubles and the one that is no number, by their words. -/
def readWordNumber (s : List Char) : Option (Value × List Char) :=
  match dropWord "NaN".toList s with
  | some rest => some (.float (Float.ofBits 0x7FF8000000000000), rest)
  | none =>
    match dropWord "Infinity".toList s with
    | some rest => some (.float (Float.ofBits 0x7FF0000000000000), rest)
    | none =>
      match dropWord "-Infinity".toList s with
      | some rest => some (.float (Float.ofBits 0xFFF0000000000000), rest)
      | none => none

/-- Whether a number is a whole one with too many digits. -/
def isTooLong (n : Number) (s : List Char) : Bool :=
  match n with
  | .int _ => digitLimit < (s.takeWhile isDigit).length
  | .float _ => false

/-- A number, a minus sign in front of it. -/
def readNumber (s : List Char) : Found Value :=
  let (negative, body) := match s with
    | '-' :: rest => (true, rest)
    | s => (false, s)
  match readUnsigned negative body with
  | some (n, rest) =>
    if isTooLong n body then .error .notNumber else .ok (.scalar (.number n), rest)
  | none => .error .malformed

/-- A value that is neither a list nor an object nor a string. -/
def readPlain (s : List Char) : Found Value :=
  match dropWord "null".toList s with
  | some rest => .ok (.null, rest)
  | none =>
    match dropWord "true".toList s with
    | some rest => .ok (.bool true, rest)
    | none =>
      match dropWord "false".toList s with
      | some rest => .ok (.bool false, rest)
      | none =>
        match readWordNumber s with
        | some found => .ok found
        | none => readNumber s

mutual

/-- The value at the start of a text, inside of which at most `levels` collections may stand in
    each other, and the text after it. -/
def readValue : Nat → Nat → List Char → Found Value
  | 0, _, _ => .error .malformed
  | fuel + 1, levels, s =>
    match s with
    | '"' :: rest => (found (readString fuel [] rest)).map fun (cs, rest') =>
        (.text (String.ofList cs), rest')
    | '[' :: rest =>
      match levels with
      | 0 => .error .tooDeep
      | levels + 1 =>
        match skipGap rest with
        | ']' :: rest' => .ok (.list [], rest')
        | rest' => readItems fuel levels [] rest'
    | '\x7b' :: rest =>
      match levels with
      | 0 => .error .tooDeep
      | levels + 1 =>
        match skipGap rest with
        | '\x7d' :: rest' => .ok (.object [], rest')
        | rest' => readFields fuel levels [] rest'
    | s => readPlain s

/-- The items of a list from the start of one on; `acc` holds the earlier ones in reverse. -/
def readItems : Nat → Nat → List Value → List Char → Found Value
  | 0, _, _, _ => .error .malformed
  | fuel + 1, levels, acc, s =>
    match readValue fuel levels s with
    | .error f => .error f
    | .ok (v, rest) =>
      match skipGap rest with
      | ']' :: rest' => .ok (.list (v :: acc).reverse, rest')
      | ',' :: rest' => readItems fuel levels (v :: acc) (skipGap rest')
      | _ => .error .malformed

/-- The fields of an object from the start of a name on; `acc` holds the earlier ones. -/
def readFields : Nat → Nat → Fields → List Char → Found Value
  | 0, _, _, _ => .error .malformed
  | fuel + 1, levels, acc, s =>
    match s with
    | '"' :: rest =>
      match readString fuel [] rest with
      | none => .error .malformed
      | some (name, rest) =>
        match skipGap rest with
        | ':' :: rest =>
          match readValue fuel levels (skipGap rest) with
          | .error f => .error f
          | .ok (v, rest) =>
            let fields := Fields.set acc (.text (String.ofList name)) v
            match skipGap rest with
            | '\x7d' :: rest' => .ok (.object fields, rest')
            | ',' :: rest' => readFields fuel levels fields (skipGap rest')
            | _ => .error .malformed
        | _ => .error .malformed
    | _ => .error .malformed

end

/-- Reads a text that holds one value and white space around it. -/
def read (text : String) : Except DataFault Value :=
  let s := skipGap text.toList
  match readValue (2 * s.length + 2) depthLimit s with
  | .error f => .error f
  | .ok (v, rest) => if (skipGap rest).isEmpty then .ok v else .error .malformed

end FormPress.Json
