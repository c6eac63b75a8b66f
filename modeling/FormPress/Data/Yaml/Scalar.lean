/-
  FormPress.Data.Yaml.Scalar

  The value of a scalar under its tag. A tag that was written may stand before
  a text that it does not fit; what is accepted then is wider than the texts that
  are marked by themselves.
-/
import FormPress.Data.Fault
import FormPress.Data.Value
import FormPress.Data.Yaml.Plain
import FormPress.Text.Case

namespace FormPress.Yaml

/-! ## Numbers -/

/-- A value that must be there, or else the text is no number. -/
def orNotNumber {α : Type} : Option α → Except DataFault α
  | some a => .ok a
  | none => .error .notNumber

/-- The text without underscores. -/
def dropUnderscores (s : List Char) : List Char := s.filter (· != '_')

/-- The whole number written with its places in base sixty between colons. -/
def sexagesimal? (s : List Char) : Option Int :=
  (splitColons [] s).foldl (fun n part => do some ((← n) * 60 + (← Numeral.whole? part))) (some 0)

/-- The whole number that a text without a sign and underscores writes. -/
def unsignedWhole (s : List Char) : Except DataFault Int :=
  match s with
  | [] => .error .noDigits
  | '0' :: 'b' :: t => orNotNumber (Numeral.wholeIn? 2 t)
  | '0' :: 'x' :: t => orNotNumber (Numeral.wholeIn? 16 t)
  | '0' :: _ => orNotNumber (Numeral.wholeIn? 8 s)
  | _ => orNotNumber (if s.contains ':' then sexagesimal? s else Numeral.whole? s)

/-- The whole number that a text writes. -/
def wholeOf (text : String) : Except DataFault Int :=
  match dropUnderscores text.toList with
  | [] => .error .noDigits
  | s =>
    let (negative, t) := Numeral.splitSign s
    (unsignedWhole t).map fun n => if negative then -n else n

/-- The sum of the places in base sixty from the last one on, each multiplied by its weight. -/
def sumPlaces : Float → Nat → List Float → Float
  | sum, _, [] => sum
  | sum, weight, x :: rest => sumPlaces (sum + x * Float.ofNat weight) (weight * 60) rest

/-- The double that a text in small letters writes without a sign and underscores. -/
def unsignedDouble? (s : List Char) : Option Float :=
  if s == ".inf".toList then some (Float.ofBits 0x7FF0000000000000)
  else if s.contains ':' then
    ((splitColons [] s).mapM Numeral.double?).map fun places => sumPlaces 0 1 places.reverse
  else Numeral.double? s

/-- The double that a text writes. -/
def doubleOf (text : String) : Except DataFault Float :=
  match dropUnderscores (Text.lower text).toList with
  | [] => .error .noDigits
  | s =>
    let (negative, t) := Numeral.splitSign s
    if t == ".nan".toList then .ok (Float.ofBits 0x7FF8000000000000)
    else orNotNumber ((unsignedDouble? t).map fun x => if negative then -x else x)

/-! ## Truth values and times -/

/-- The words for truth and falsehood in small letters. -/
def truths : List (String × Bool) :=
  [("yes", true), ("no", false), ("true", true), ("false", false), ("on", true), ("off", false)]

/-- The truth value of a word in any case. -/
def truthOf (text : String) : Except DataFault Bool :=
  match truths.find? (·.1 == Text.lower text) with
  | some p => .ok p.2
  | none => .error .notTruth

/-- The millionths of a second written by the digits of a fraction; further digits are cut off. -/
def microsOf (fraction : List Char) : Nat :=
  let digits := fraction.take 6
  Json.digitsValue (digits ++ List.replicate (6 - digits.length) '0')

/-- The time that a text writes, which must exist. -/
def timeOf (text : String) : Except DataFault Scalar :=
  match timeText? (dropFinalBreak text.toList) with
  | none => .error .notTime
  | some t =>
    let day : Day := ⟨t.year, t.month, t.day⟩
    match t.clock with
    | none => if day.isReal then .ok (.day day) else .error .notNumber
    | some (hour, minute, second, fraction) =>
      let moment : Moment := ⟨day, hour, minute, second, microsOf fraction, t.offset⟩
      if moment.isReal then .ok (.moment moment) else .error .notNumber

/-! ## Bytes -/

/-- The value of a digit in base 64. -/
def digit64? (c : Char) : Option Nat :=
  if 'A' ≤ c && c ≤ 'Z' then some (c.toNat - 65)
  else if 'a' ≤ c && c ≤ 'z' then some (c.toNat - 71)
  else if '0' ≤ c && c ≤ '9' then some (c.toNat + 4)
  else if c == '+' then some 62
  else if c == '/' then some 63
  else none

/-- The bytes written in base 64. `place` counts the digits of the group so far, `carry` is what
    they left over, and `pads` counts the padding characters since. A group that is padded fully
    ends the text, other characters are passed over, and no group may be unfinished. -/
def bytesFrom? (place carry pads : Nat) (acc : List UInt8) : List Char → Option (List UInt8)
  | [] => if place == 0 then some acc.reverse else none
  | c :: s =>
    if c == '=' then
      if 2 ≤ place then
        if 4 ≤ place + pads + 1 then some acc.reverse else bytesFrom? place carry (pads + 1) acc s
      else bytesFrom? place carry pads acc s
    else
      match digit64? c with
      | none => bytesFrom? place carry pads acc s
      | some d =>
        match place with
        | 0 => bytesFrom? 1 d 0 acc s
        | 1 => bytesFrom? 2 (d % 16) 0 (UInt8.ofNat (carry * 4 + d / 16) :: acc) s
        | 2 => bytesFrom? 3 (d % 4) 0 (UInt8.ofNat (carry * 16 + d / 4) :: acc) s
        | _ => bytesFrom? 0 0 0 (UInt8.ofNat (carry * 64 + d) :: acc) s

/-- The bytes that a text in base 64 writes. -/
def bytesOf (text : String) : Except DataFault (List UInt8) :=
  if text.toList.all (·.toNat < 128) then
    match bytesFrom? 0 0 0 [] text.toList with
    | some bs => .ok bs
    | none => .error .malformed
  else .error .malformed

/-! ## Values -/

/-- The value of a text under a tag; none where the tag is one of collections. -/
def Tag.scalar? (tag : Tag) (text : String) : Option (Except DataFault Scalar) :=
  match tag with
  | .null => some (.ok .null)
  | .bool => some ((truthOf text).map .bool)
  | .int => some ((wholeOf text).map fun n => .number (.int n))
  | .float => some ((doubleOf text).map fun x => .number (.float x))
  | .binary => some ((bytesOf text).map .bytes)
  | .timestamp => some (timeOf text)
  | .str => some (.ok (.text text))
  | _ => none

end FormPress.Yaml
