/-
  FormPress.Proofs.Tables.Whole

  Values that are equal to whole numbers (`Value.whole?`): whole numbers, doubles
  without a fraction and truth values.  Such a value is equal to the same values as
  the number, stands in the same place among others, and is read as the number.  A
  text or bytes of a number are read as it as well (`Value.isSpelled`), but are
  neither equal to it nor in its place.
-/
import FormPress.Record.Field
import FormPress.Tables.Order
import Mathlib.Data.Prod.Lex

namespace FormPress

/-! ## Exact values -/

/-- A double without a fraction is a whole number over its denominator. -/
theorem Decimal.Binary.signed_of_toInt? {b : Binary} {n : Int} (h : b.toInt? = some n) :
    b.signed = n * b.denominator := by
  rw [toInt?] at h
  split at h
  next hmod =>
    have hnumerator : (b.numerator : Int) = (b.numerator / b.denominator : Nat) * b.denominator := by
      exact_mod_cast (Nat.div_mul_cancel (Nat.dvd_of_mod_eq_zero hmod)).symm
    rw [← Option.some.inj h, signed]
    split
    · rw [hnumerator, Int.neg_mul]
    · exact hnumerator
  next => cases h

/-- An exact value has a positive denominator. -/
theorem Number.denominator_pos {m : Number} {a : Int} {p : Nat} (h : m.real = .finite a p) :
    0 < p := by
  cases m with
  | int n =>
      cases h
      exact Nat.one_pos
  | float x =>
      rw [Number.real] at h
      split at h
      · cases h
        exact Nat.pow_pos Nat.two_pos
      · cases h
      · cases h

/-- Two numbers compare as their multiples. -/
theorem compare_mul_pos (a b : Int) {p : Nat} (hp : 0 < p) :
    compare (a * p) (b * p) = compare a b := by
  have hp : (0 : Int) < p := Int.natCast_pos.mpr hp
  -- Multiplying by a positive number keeps less, equal and greater.
  rcases lt_trichotomy a b with h | rfl | h
  · rw [compare_lt_iff_lt.mpr h, compare_lt_iff_lt]
    exact Int.mul_lt_mul_of_pos_right h hp
  · rw [compare_eq_iff_eq.mpr rfl, compare_eq_iff_eq.mpr rfl]
  · rw [compare_gt_iff_gt.mpr h, compare_gt_iff_gt]
    exact Int.mul_lt_mul_of_pos_right h hp

/-- A number that is zero has the exact value zero. -/
theorem Number.real_of_isZero {m : Number} (h : m.isZero = true) : ∃ p, m.real = .finite 0 p := by
  cases m with
  | int n =>
      rw [isZero, beq_iff_eq] at h
      exact ⟨1, by rw [real, h]⟩
  | float x =>
      rw [isZero] at h
      rw [real]
      split at h
      next b hshape =>
        rw [beq_iff_eq] at h
        refine ⟨b.denominator, ?_⟩
        have hsigned : b.signed = 0 := by
          simp [Decimal.Binary.signed, Decimal.Binary.numerator, h]
        simp only [hshape, hsigned]
      next => cases h

/-- A double that is read as a whole number is finite and equal to it. -/
theorem Read.finite_of_wholeOfFloat {x : Float} {n : Int} (h : Read.wholeOfFloat x = .fits n) :
    ∃ b, Decimal.Shape.ofFloat x = .finite b ∧ b.toInt? = some n := by
  rw [wholeOfFloat] at h
  split at h
  next b hshape =>
    split at h
    next m hwhole =>
      split at h
      · exact ⟨b, hshape, hwhole.trans (congrArg some (Check.fits.inj h))⟩
      · cases h
    next => cases h
  next => cases h

namespace Real

/-- A whole number may be written over any denominator. -/
theorem order?_whole (x : Real) (n : Int) {p : Nat} (hp : 0 < p) :
    x.order? (.finite (n * p) p) = x.order? (.finite n 1) := by
  cases x with
  | finite b q =>
      have hright : n * p * q = n * q * p := Int.mul_right_comm ..
      rw [order?, order?, hright, compare_mul_pos _ _ hp, Int.natCast_one, Int.mul_one]
  | _ => rfl

/-- A whole number may be written over any denominator, on the left as well. -/
theorem whole_order? (x : Real) (n : Int) {p : Nat} (hp : 0 < p) :
    (Real.finite (n * p) p).order? x = (Real.finite n 1).order? x := by
  cases x with
  | finite b q =>
      have hleft : n * p * q = n * q * p := Int.mul_right_comm ..
      rw [order?, order?, hleft, compare_mul_pos _ _ hp, Int.natCast_one, Int.mul_one]
  | _ => rfl

theorem order?_int (m n : Int) : (Real.finite m 1).order? (.finite n 1) = some (compare m n) := by
  rw [order?, Int.natCast_one, Int.mul_one, Int.mul_one]

end Real

/-! ## Values that are whole numbers -/

/-- The whole number that a value is equal to. -/
def Value.whole? : Value → Option Int
  | .scalar s => s.whole?
  | _ => none

/-- Whether a value can only be read as a number. -/
def Value.isSpelled : Value → Bool
  | .text _ => true
  | .scalar (.bytes _) => true
  | _ => false

/-- What it means for a scalar to be equal to a whole number. -/
theorem Scalar.whole?_eq_some_iff {s : Scalar} {n : Int} :
    s.whole? = some n ↔ ∃ m, ∃ p : Nat, s.number? = some m ∧ m.real = .finite (n * p) p ∧ 0 < p := by
  constructor
  · intro h
    rw [Scalar.whole?] at h
    cases hm : s.number? with
    | none =>
        rw [hm] at h
        cases h
    | some m =>
        rw [hm, Option.map_some] at h
        cases hreal : m.real with
        | finite a p =>
            simp only [hreal] at h
            -- The fraction is whole if its denominator divides the numerator.
            split at h
            next hmod =>
              refine ⟨m, p, rfl, ?_, Number.denominator_pos hreal⟩
              rw [beq_iff_eq] at hmod
              rw [hreal, ← Option.some.inj h, Int.ediv_mul_cancel (Int.dvd_of_emod_eq_zero hmod)]
            next => cases h
        | infinite negative =>
            simp only [hreal] at h
            cases h
        | undefined =>
            simp only [hreal] at h
            cases h
  · rintro ⟨m, p, hm, hreal, hp⟩
    have hp : (p : Int) ≠ 0 := Int.natCast_ne_zero.mpr (Nat.ne_of_gt hp)
    rw [Scalar.whole?, hm, Option.map_some, hreal]
    simp only [Int.mul_emod_left, beq_self_eq_true, if_true, Int.mul_ediv_cancel _ hp]

/-- Comparing with a number as key is comparing exact values. -/
theorem Scalar.same_number {s : Scalar} {m : Number} (hm : s.number? = some m) (a : Scalar) :
    a.same s = a.number?.any fun l => l.real.order? m.real == some .eq := by
  cases s with
  | bool b =>
      cases hm
      cases a <;> rfl
  | number k =>
      cases hm
      cases a <;> rfl
  | _ => cases hm

/-- Numbers are put in order by their exact values. -/
theorem Scalar.order?_number {s t : Scalar} {m n : Number} (hm : s.number? = some m)
    (hn : t.number? = some n) :
    (Value.scalar s).order? (.scalar t) = some ((m.real.order? n.real).getD .eq) := by
  rw [Value.order?]
  · rw [hm, hn]
  all_goals
    rintro _ _ rfl
    cases hm

namespace Value

variable {v w : Value} {m n : Int}

theorem whole?_eq_some_iff : v.whole? = some n ↔ ∃ s, ∃ k, ∃ p : Nat,
    v = .scalar s ∧ s.number? = some k ∧ k.real = .finite (n * p) p ∧ 0 < p := by
  cases v with
  | scalar s =>
      rw [whole?, Scalar.whole?_eq_some_iff]
      constructor
      · rintro ⟨k, p, hk⟩
        exact ⟨s, k, p, rfl, hk⟩
      · rintro ⟨s', k, p, hs, hk⟩
        cases hs
        exact ⟨k, p, hk⟩
  | _ => exact ⟨nofun, fun ⟨_, _, _, hs, _⟩ => nomatch hs⟩

theorem whole?_int (n : Int) : (int n).whole? = some n :=
  whole?_eq_some_iff.mpr ⟨_, .int n, 1, rfl, rfl, by rw [Number.real, Int.natCast_one, Int.mul_one],
    Nat.one_pos⟩

/-- A value that is equal to a whole number is equal to the same values as the number. -/
theorem same_of_whole (hv : v.whole? = some n) (w : Value) : w.same v = w.same (.int n) := by
  obtain ⟨s, k, p, rfl, hk, hreal, hp⟩ := whole?_eq_some_iff.mp hv
  have hint : (Scalar.number (.int n)).number? = some (.int n) := rfl
  cases w with
  | scalar a =>
      rw [same, same, Scalar.same_number hk, Scalar.same_number hint, hreal]
      simp only [Real.order?_whole _ _ hp, Number.real]
  | _ => rw [same, same] <;> nofun

/-- Values that are equal to whole numbers stand in the order of these. -/
theorem order?_of_whole (hv : v.whole? = some m) (hw : w.whole? = some n) :
    v.order? w = some (compare m n) := by
  obtain ⟨s, k, p, rfl, hk, hreal, hp⟩ := whole?_eq_some_iff.mp hv
  obtain ⟨t, l, q, rfl, hl, hreal', hq⟩ := whole?_eq_some_iff.mp hw
  rw [Scalar.order?_number hk hl, hreal, hreal', Real.order?_whole _ _ hq, Real.whole_order? _ _ hp,
    Real.order?_int]
  rfl

/-- Two values that are equal to whole numbers are equal if these are. -/
theorem same_whole (hv : v.whole? = some m) (hw : w.whole? = some n) :
    v.same w = decide (m = n) := by
  obtain ⟨s, k, p, rfl, hk, hreal, hp⟩ := whole?_eq_some_iff.mp hv
  rw [same_of_whole hw, same, Scalar.same_number (m := .int n) rfl, hk, Option.any_some, hreal,
    Number.real, Real.whole_order? _ _ hp, Real.order?_int, Bool.eq_iff_iff]
  simp

/-- Zero may stand for a value that is equal to zero. -/
theorem whole?_orElse (hv : v.whole? = some n) : (v.orElse (.int 0)).whole? = some n := by
  rw [orElse]
  split
  · exact hv
  · next htruthy =>
    -- A number that does not count as given is zero.
    obtain ⟨s, k, p, rfl, hk, hreal, hp⟩ := whole?_eq_some_iff.mp hv
    have hzero : k.isZero = true := by
      cases s with
      | bool b =>
          cases hk
          cases b with
          | true => exact absurd rfl htruthy
          | false => rfl
      | number l =>
          cases hk
          rwa [truthy, Bool.not_eq_true, Bool.not_eq_false'] at htruthy
      | _ => cases hk
    obtain ⟨q, hq⟩ := Number.real_of_isZero hzero
    have hn : 0 = n * p := (Real.finite.inj (hq.symm.trans hreal)).1
    have hn : n = 0 := (Int.mul_eq_zero.mp hn.symm).resolve_right (Int.natCast_ne_zero.mpr hp.ne')
    rw [hn, whole?_int]

/-- Of a value that is not spelled the number is read that it is equal to. -/
theorem whole?_of_read (h : Read.whole v = .fits n) (hv : v.isSpelled = false) :
    v.whole? = some n := by
  cases v with
  | scalar s =>
      -- Only truth values and numbers are read without being spelled.
      cases s with
      | bool b =>
          obtain rfl := Check.fits.inj h
          exact whole?_eq_some_iff.mpr ⟨_, .int (if b then 1 else 0), 1, rfl, rfl,
            by rw [Number.real, Int.natCast_one, Int.mul_one], Nat.one_pos⟩
      | number k =>
          cases k with
          | int m =>
              obtain rfl := Check.fits.inj h
              exact whole?_int m
          | float x =>
              obtain ⟨b, hshape, hwhole⟩ := Read.finite_of_wholeOfFloat h
              refine whole?_eq_some_iff.mpr ⟨_, .float x, b.denominator, rfl, rfl, ?_,
                Nat.pow_pos Nat.two_pos⟩
              simp only [Number.real, hshape, b.signed_of_toInt? hwhole]
      | text s => cases hv
      | bytes bs => cases hv
      | _ => cases h
  | _ => cases h

end Value

/-! ## Records in order -/

namespace Record

/-- Whether the order number or the id of a record can only be read as a number. -/
def isSpelled (r : Record) : Bool :=
  (Fields.get r "sort_order").isSpelled || (Fields.get r "id").isSpelled

/-- What a record is sorted by is equal to the numbers of a place. -/
structure StandsAt (r : Record) (place : Int ×ₗ Int) : Prop where
  sortOrder : r.sortKey.1.whole? = some (ofLex place).1
  id : r.sortKey.2.whole? = some (ofLex place).2

variable {r s : Record} {p q : Int ×ₗ Int}

/-- Records at places are compared part by part. -/
theorem order?_of_standsAt (hr : r.StandsAt p) (hs : s.StandsAt q) :
    r.order? s = some ((compare (ofLex p).1 (ofLex q).1).then
      (compare (ofLex p).2 (ofLex q).2)) := by
  rw [order?, decidingParts, Value.same_whole hr.sortOrder hs.sortOrder]
  -- The first parts that differ decide, so equal order numbers leave it to the ids.
  by_cases hfirst : (ofLex p).1 = (ofLex q).1
  · simp only [hfirst, decide_true, if_true, Value.same_whole hr.id hs.id,
      Value.order?_of_whole hr.id hs.id]
    by_cases hsecond : (ofLex p).2 = (ofLex q).2
    · simp [hsecond]
    · simp [hsecond]
  · simp only [hfirst, decide_false, Bool.false_eq_true, if_false,
      Value.same_whole hr.sortOrder hs.sortOrder, Value.order?_of_whole hr.sortOrder hs.sortOrder]
    cases hcompare : compare (ofLex p).1 (ofLex q).1 with
    | eq => exact absurd (compare_eq_iff_eq.mp hcompare) hfirst
    | lt => rfl
    | gt => rfl

/-- A record at a place comes before those at greater places, and among the same ones. -/
theorem before_of_standsAt (hr : r.StandsAt p) (hs : s.StandsAt q) :
    r.before s = decide (p ≤ q) := by
  rw [before, order?_of_standsAt hr hs, Bool.eq_iff_iff, decide_eq_true_iff, Prod.Lex.le_iff]
  simp only [bne_iff_ne, ne_eq, Option.some.injEq]
  -- Pairs are ordered by their first parts, and where these are equal by the second ones.
  rcases lt_trichotomy (ofLex p).1 (ofLex q).1 with h | h | h
  · simp [compare_lt_iff_lt.mpr h, h]
  · simp [h, compare_gt_iff_gt]
  · simp [compare_gt_iff_gt.mpr h, h.ne', h.not_gt]

/-- The place that a record stands at, if it stands at one. -/
def worth (r : Record) : Int ×ₗ Int :=
  toLex (r.sortKey.1.whole?.getD 0, r.sortKey.2.whole?.getD 0)

theorem StandsAt.worth_eq (h : r.StandsAt p) : r.worth = p := by
  rw [worth, h.sortOrder, h.id]
  rfl

/-- Sorting records by their places; the two orders agree on these records, and only there. -/
theorem mergeSort_before {records : List Record} {place : Record → Int ×ₗ Int}
    (h : ∀ r ∈ records, r.StandsAt (place r)) :
    records.mergeSort before = records.mergeSort fun r s => decide (place r ≤ place s) := by
  have hmap := List.map_mergeSort (r := before) (s := fun r s => decide (place r ≤ place s))
    (f := id) (l := records) fun r hr s hs => before_of_standsAt (h r hr) (h s hs)
  rwa [List.map_id, List.map_id] at hmap

/-- Records that are sorted by their places stand in the order of these. -/
theorem pairwise_mergeSort {records : List Record} {place : Record → Int ×ₗ Int}
    (h : ∀ r ∈ records, r.StandsAt (place r)) :
    (records.mergeSort before).Pairwise fun r s => place r ≤ place s := by
  rw [mergeSort_before h]
  have hle : (records.mergeSort fun r s => decide (place r ≤ place s)).Pairwise
      fun r s => decide (place r ≤ place s) = true :=
    List.pairwise_mergeSort (by simpa using fun _ _ _ => le_trans)
      (by simpa using fun _ _ => le_total _ _) records
  exact hle.imp of_decide_eq_true

end Record

end FormPress
