/-
  FormPress.Decimal.Shortest

  The fewest decimal digits that read back as a given double. The reals that
  round to a double form an interval around it; for one, two, up to seventeen
  digits the value's two neighbours on that decimal grid are tested against the
  interval in exact arithmetic, and the first grid with a hit wins.
-/
import FormPress.Decimal.Binary

namespace FormPress.Decimal

/-- A decimal in scientific form: `digits` with the point after the first one,
    times `10 ^ exponent`. -/
structure Scientific where
  digits : List Char
  exponent : Int
  deriving Repr, DecidableEq

/-! ## The rounding interval -/

/-- Whether `c · 10 ^ k` rounds to the magnitude of `b`: both ends of the interval are
    compared after multiplying out all denominators, and belong to it iff the mantissa is even. -/
def Binary.admits (b : Binary) (c : Nat) (k : Int) : Bool :=
  let left := 4 * c * Nat.pow 10 k.toNat * b.denominator
  let unit := Nat.pow 2 b.exponent.toNat * Nat.pow 10 (-k).toNat
  let low := (4 * b.mantissa - (if b.atBinade then 1 else 2)) * unit
  let high := (4 * b.mantissa + 2) * unit
  if b.mantissa % 2 = 0 then decide (low ≤ left) && decide (left ≤ high)
  else decide (low < left) && decide (left < high)

/-! ## The decimal exponent -/

/-- How many times `num` must be multiplied by ten to reach `den`. -/
def shiftsToReach : Nat → Nat → Nat → Nat
  | 0, _, _ => 0
  | fuel + 1, num, den => if den ≤ num then 0 else shiftsToReach fuel (num * 10) den + 1

/-- The exponent of the leading decimal digit of a positive fraction. -/
def leadingExponent (num den : Nat) : Int :=
  if den ≤ num then ((Nat.toDigits 10 (num / den)).length : Int) - 1
  else -(shiftsToReach 400 num den : Int)

/-! ## The search -/

/-- The grid point of `10 ^ k` that is chosen for `b`, if one of the two neighbours of the
    value reads back as it: the nearer one of two hits, the even one of an exact tie. -/
def Binary.gridPoint? (b : Binary) (k : Int) : Option Nat :=
  let num := b.numerator * Nat.pow 10 (-k).toNat
  let den := b.denominator * Nat.pow 10 k.toNat
  let below := num / den
  let above := below + 1
  match b.admits below k, b.admits above k with
  | true, true => some (roundQuotient num den)
  | true, false => some below
  | false, true => some above
  | false, false => none

/-- Tries grids of `count`, `count + 1`, … digits below the leading exponent `lead`. -/
def Binary.searchGrids (b : Binary) (lead : Int) : Nat → Nat → Option (Nat × Int)
  | 0, _ => none
  | fuel + 1, count =>
    let k := lead - (count : Int) + 1
    match b.gridPoint? k with
    | some c => some (c, k)
    | none => b.searchGrids lead fuel (count + 1)

/-- Drops the zeros at the end of a digit sequence. -/
def dropTrailingZeros (digits : List Char) : List Char :=
  (digits.reverse.dropWhile (· == '0')).reverse

/-- The scientific form of `c · 10 ^ k`. -/
def Scientific.ofGrid (c : Nat) (k : Int) : Scientific :=
  let digits := Nat.toDigits 10 c
  ⟨if c = 0 then ['0'] else dropTrailingZeros digits, k + digits.length - 1⟩

/-- The shortest decimal that reads back as the magnitude of `b`; zero is `0`. -/
def Binary.shortest (b : Binary) : Scientific :=
  if b.mantissa = 0 then ⟨['0'], 0⟩
  else
    match b.searchGrids (leadingExponent b.numerator b.denominator) 20 1 with
    | some (c, k) => Scientific.ofGrid c k
    | none => ⟨['0'], 0⟩

end FormPress.Decimal
