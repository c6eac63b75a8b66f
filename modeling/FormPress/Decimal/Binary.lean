/-
  FormPress.Decimal.Binary

  Double-precision numbers as exact binary fractions: the parts of a number's
  64 bits, the integer it equals if it is whole, and the number nearest to a
  given fraction (`Binary.nearest`), an exact tie going to the even mantissa.
-/

namespace FormPress.Decimal

/-! ## Exact parts of a double -/

/-- A finite double: `mantissa · 2 ^ exponent`, negated if `negative`. -/
structure Binary where
  negative : Bool
  mantissa : Nat
  exponent : Int
  deriving Repr, DecidableEq

/-- What 64 bits stand for. -/
inductive Shape where
  | finite (b : Binary)
  | infinite (negative : Bool)
  | notANumber
  deriving Repr, DecidableEq

/-- How many values the 52 bits of a fraction field have; also the leading bit of a full
    mantissa. -/
def fractionCount : Nat := Nat.pow 2 52

/-- The bit above the exponent field, set on negative numbers. -/
def signBit : Nat := Nat.pow 2 63

/-- The bits of positive infinity. -/
def infinityBits : Nat := 2047 * fractionCount

/-- The shape of a double, read off its sign bit, exponent field and fraction field. -/
def Shape.ofBits (bits : Nat) : Shape :=
  let negative := decide (signBit ≤ bits)
  let field : Nat := bits / fractionCount % 2048
  let fraction : Nat := bits % fractionCount
  if field = 2047 then
    if fraction = 0 then .infinite negative else .notANumber
  else if field = 0 then .finite ⟨negative, fraction, -1074⟩
  else .finite ⟨negative, fraction + fractionCount, (field : Int) - 1075⟩

/-- The shape of a double. -/
def Shape.ofFloat (x : Float) : Shape := Shape.ofBits x.toBits.toNat

namespace Binary

/-- The numerator of the magnitude over `denominator`. -/
def numerator (b : Binary) : Nat := b.mantissa * Nat.pow 2 b.exponent.toNat

/-- The power of two below the magnitude's fraction bar. -/
def denominator (b : Binary) : Nat := Nat.pow 2 (-b.exponent).toNat

/-- The signed numerator over `denominator`. -/
def signed (b : Binary) : Int := if b.negative then -(b.numerator : Int) else b.numerator

/-- The integer that the number equals, if it is whole. -/
def toInt? (b : Binary) : Option Int :=
  if b.numerator % b.denominator = 0 then
    let n := b.numerator / b.denominator
    some (if b.negative then -(n : Int) else n)
  else none

/-- Whether the number is a power of two at which the spacing of doubles doubles:
    the neighbour below is then twice as near as the neighbour above. -/
def atBinade (b : Binary) : Bool := b.mantissa == fractionCount && decide (-1074 < b.exponent)

end Binary

/-! ## The double nearest to a fraction -/

/-- The bits of a positive double with the given mantissa and exponent. -/
def packBits (mantissa : Nat) (exponent : Int) : Nat :=
  if 971 < exponent then infinityBits
  else if mantissa < fractionCount then mantissa
  else (exponent + 1075).toNat * fractionCount + (mantissa - fractionCount)

/-- The quotient of two naturals rounded to the nearest one, ties to even. -/
def roundQuotient (num den : Nat) : Nat :=
  let q := num / den
  let r := num % den
  if 2 * r < den then q
  else if den < 2 * r then q + 1
  else q + q % 2

/-- The fraction `num / den` divided by `2 ^ e`, as a pair. -/
def scaleFraction (num den : Nat) (e : Int) : Nat × Nat :=
  (num * Nat.pow 2 (-e).toNat, den * Nat.pow 2 e.toNat)

/-- The exponent at which `num / den` has a mantissa of 53 bits, or the least exponent. -/
def mantissaExponent (num den : Nat) : Int :=
  let guess : Int := (Nat.log2 num : Int) - (Nat.log2 den : Int) - 52
  let (n, d) := scaleFraction num den guess
  max (-1074) (if n / d < fractionCount then guess - 1 else guess)

/-- The bits of the double nearest to `num / den`, ties to the even mantissa;
    infinity once the fraction rounds past the largest double. -/
def nearestBits (num den : Nat) : Nat :=
  if num = 0 then 0
  else
    let e := mantissaExponent num den
    let (n, d) := scaleFraction num den e
    let m := roundQuotient n d
    if m = 2 * fractionCount then packBits fractionCount (e + 1) else packBits m e

/-- The double nearest to `digits · 10 ^ exponent`, negated if `negative`. Exponents that
    leave the range of doubles whatever the digits are decided without computing the power. -/
def nearestFloat (negative : Bool) (digits : Nat) (exponent : Int) : Float :=
  let width : Int := (Nat.toDigits 10 digits).length
  let bits :=
    if digits = 0 || width + exponent < -400 then 0
    else if 400 < width + exponent then infinityBits
    else nearestBits (digits * Nat.pow 10 exponent.toNat) (Nat.pow 10 (-exponent).toNat)
  Float.ofBits (UInt64.ofNat (if negative then signBit + bits else bits))

end FormPress.Decimal
