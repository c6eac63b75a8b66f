/-
  FormPress.Decimal.Layout

  How a double is written once its digits are known: which exponents are
  written positionally, how an exponent looks, and the words for the values
  that are no numbers.
-/
import FormPress.Decimal.Shortest

namespace FormPress.Decimal

/-- The decisions of a written form of doubles. -/
structure Layout where
  /-- least exponent of the leading digit that is written positionally -/
  firstPositional : Int
  /-- first exponent of the leading digit that is no longer written positionally -/
  firstScientific : Int
  /-- fewest digits of a written exponent -/
  exponentWidth : Nat
  infinity : String
  notANumber : String

/-- The form used by the engine: positional from 0.0001 up to sixteen digits before the point,
    a whole number keeps `.0`, an exponent has a sign and at least two digits. -/
def Layout.plain : Layout where
  firstPositional := -4
  firstScientific := 16
  exponentWidth := 2
  infinity := "inf"
  notANumber := "nan"

/-- Pads a digit sequence with zeros on the left. -/
def padLeft (width : Nat) (digits : List Char) : List Char :=
  List.replicate (width - digits.length) '0' ++ digits

/-- Digits with the point after the `point`-th one, zeros filling up on either side. -/
def positional (digits : List Char) (point : Int) : List Char :=
  if point ≤ 0 then
    ['0', '.'] ++ List.replicate (-point).toNat '0' ++ digits
  else
    let n := point.toNat
    let whole := digits.take n ++ List.replicate (n - digits.length) '0'
    let fraction := digits.drop n
    whole ++ ['.'] ++ (if fraction.isEmpty then ['0'] else fraction)

/-- Digits in scientific form: a point only where digits follow it. -/
def Layout.scientific (l : Layout) (digits : List Char) (exponent : Int) : List Char :=
  let fraction := digits.drop 1
  let point := if fraction.isEmpty then [] else ['.'] ++ fraction
  let sign := if exponent < 0 then '-' else '+'
  digits.take 1 ++ point ++ ['e', sign] ++ padLeft l.exponentWidth (Nat.toDigits 10 exponent.natAbs)

/-- Writes a decimal in scientific form by the rules of the layout. -/
def Layout.decimal (l : Layout) (d : Scientific) : List Char :=
  if l.firstPositional ≤ d.exponent ∧ d.exponent < l.firstScientific then
    positional d.digits (d.exponent + 1)
  else l.scientific d.digits d.exponent

/-- A minus sign in front of a negative number. -/
def signed (negative : Bool) (text : String) : String := if negative then "-" ++ text else text

/-- Writes a double with the fewest digits that read back as it. -/
def Layout.float (l : Layout) (x : Float) : String :=
  match Shape.ofFloat x with
  | .finite b => signed b.negative (String.ofList (l.decimal b.shortest))
  | .infinite negative => signed negative l.infinity
  | .notANumber => l.notANumber

end FormPress.Decimal
