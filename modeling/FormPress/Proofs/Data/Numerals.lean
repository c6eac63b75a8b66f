/-
  FormPress.Proofs.Data.Numerals

  Whole numbers and how they are written.  Different numbers have different
  numerals (`natText_inj`), and a number has the same one whether it is stored as
  a whole number or as a double (`Number.text_of_equals`).
-/
import FormPress.Data.Written

namespace FormPress

/-! ## Numerals -/

/-- Different numbers have different numerals, because a numeral can be read again. -/
theorem natText_inj {m n : Nat} : toString m = toString n ↔ m = n := by
  refine ⟨fun h => ?_, fun h => h ▸ rfl⟩
  rw [Nat.toString_eq_ofList_toDigits, Nat.toString_eq_ofList_toDigits, String.ofList_inj] at h
  have hread := congrArg (Nat.ofDigitChars 10 · 0) h
  simpa only [Nat.ofDigitChars_ten_toDigits] using hread

/-! ## Doubles without a fraction -/

theorem Decimal.Binary.denominator_ne_zero (b : Binary) : (b.denominator : Int) ≠ 0 :=
  Int.natCast_ne_zero.mpr (Nat.ne_of_gt (Nat.pow_pos Nat.two_pos))

theorem Decimal.Binary.natAbs_signed (b : Binary) : b.signed.natAbs = b.numerator := by
  rw [signed]
  split
  · rw [Int.natAbs_neg, Int.natAbs_natCast]
  · rw [Int.natAbs_natCast]

/-- A double that is a whole number over its denominator has no fraction. -/
theorem Decimal.Binary.toInt?_of_signed {b : Binary} {n : Int} (h : b.signed = n * b.denominator) :
    b.toInt? = some n := by
  have hnumerator : b.numerator = n.natAbs * b.denominator := by
    rw [← natAbs_signed, h, Int.natAbs_mul, Int.natAbs_natCast]
  have hpos : 0 < b.denominator := Nat.pow_pos Nat.two_pos
  rw [toInt?, hnumerator, if_pos (Nat.mul_mod_left ..), Nat.mul_div_cancel _ hpos]
  -- Only the sign is left to be compared.
  have hsign : (if b.negative then -(n.natAbs : Int) else n.natAbs) * b.denominator =
      n * b.denominator := by
    rw [← h, signed, hnumerator, Int.natCast_mul]
    split
    · rw [Int.neg_mul]
    · rfl
  exact congrArg some (Int.eq_of_mul_eq_mul_right b.denominator_ne_zero hsign)

/-- Whether a number, whole or a double, is equal to a whole number. -/
def Number.Equals (m : Number) (n : Int) : Prop := m.real.order? (Number.int n).real = some .eq

instance (m : Number) (n : Int) : Decidable (m.Equals n) := inferInstanceAs (Decidable (_ = _))

/-- A number that is equal to a whole one is written without a fraction. -/
theorem Number.text_of_equals {m : Number} {n : Int} (h : m.Equals n) : m.text = toString n := by
  cases m with
  | int k =>
      have hk : k = n := by
        simpa [Equals, real, Real.order?] using h
      rw [text, hk]
  | float x =>
      rw [text]
      cases hshape : Decimal.Shape.ofFloat x with
      | finite b =>
          have hsigned : b.signed = n * b.denominator := by
            simpa [Equals, real, hshape, Real.order?] using h
          simp only [b.toInt?_of_signed hsigned]
      | infinite negative => cases negative <;> simp [Equals, real, hshape, Real.order?] at h
      | notANumber => simp [Equals, real, hshape, Real.order?] at h

example : (Number.float 3.0).Equals 3 := by decide

end FormPress
