/-
  FormPress.Proofs.Text.Blank

  White space, and what trimming does to it.  Trimming takes nothing but white
  space away (`inked_trimChars`), takes all of a text only if that is blank
  (`trimChars_eq_nil_iff`), and leaves a front without white space at its ends
  where it is (`trimChars_append`).  White space has no case: of two characters
  that count as one letter both are white space or none is
  (`isBlank_of_sameLetter`).
-/
import FormPress.Text.Search
import Mathlib.Data.List.DropRight

namespace FormPress.Text

/-! ## Trimming -/

section

variable {s front after : List Char}

/-- The text with all its white space deleted. -/
def inked (s : List Char) : List Char := s.filter (!isBlank ·)

/-- A text that neither begins nor ends with white space. -/
structure Tight (s : List Char) : Prop where
  head : ∀ c ∈ s.head?, isBlank c = false
  last : ∀ c ∈ s.getLast?, isBlank c = false

theorem inked_append (s t : List Char) : inked (s ++ t) = inked s ++ inked t := List.filter_append ..

theorem trimRight_eq (s : List Char) : trimRight s = s.rdropWhile isBlank := rfl

/-- Nothing but white space is taken away on the left. -/
theorem inked_trimLeft (s : List Char) : inked (trimLeft s) = inked s := by
  induction s with
  | nil => rfl
  | cons c s ih =>
      rw [trimLeft] at ih ⊢
      by_cases hc : isBlank c = true
      · rw [List.dropWhile_cons_of_pos hc, ih, inked, inked, List.filter_cons_of_neg (by simp [hc])]
      · rw [List.dropWhile_cons_of_neg hc]

/-- Nothing but white space is taken away on the right, which is the left read backwards. -/
theorem inked_trimRight (s : List Char) : inked (trimRight s) = inked s := by
  have hreverse (t : List Char) : inked t.reverse = (inked t).reverse := List.filter_reverse ..
  have hleft := inked_trimLeft s.reverse
  rw [trimLeft] at hleft
  rw [trimRight, hreverse, hleft, hreverse, List.reverse_reverse]

/-- Trimming takes nothing but white space away. -/
theorem inked_trimChars (s : List Char) : inked (trimChars s) = inked s := by
  rw [trimChars, inked_trimRight, inked_trimLeft]

/-- What trimming leaves stands in the text. -/
theorem infix_of_trimChars (s : List Char) : trimChars s <:+: s := by
  have hleft : trimLeft s <:+ s := List.dropWhile_suffix _
  have hright : trimRight (trimLeft s) <+: trimLeft s := List.rdropWhile_prefix ..
  exact hright.isInfix.trans hleft.isInfix

/-- Trimming leaves nothing of a blank text, and only of a blank one. -/
theorem trimChars_eq_nil_iff : trimChars s = [] ↔ ∀ c ∈ s, isBlank c = true := by
  constructor
  · intro hnil c hc
    have hinked : inked s = [] := by rw [← inked_trimChars, hnil]; rfl
    have hdropped := List.filter_eq_nil_iff.mp hinked c hc
    simpa using hdropped
  · intro hblank
    have hleft : trimLeft s = [] := List.dropWhile_eq_nil_iff.mpr hblank
    rw [trimChars, hleft]
    rfl

/-- On the right a tight front stays, whatever is behind it. -/
theorem trimRight_append (htight : Tight front) :
    trimRight (front ++ after) = front ++ trimRight after := by
  induction after using List.reverseRecOn with
  | nil =>
      rw [List.append_nil, trimRight_eq, trimRight_eq, List.rdropWhile_nil, List.append_nil,
        List.rdropWhile_eq_self_iff]
      intro hne
      rw [htight.last _ (List.getLast?_eq_some_getLast hne)]
      exact Bool.false_ne_true
  | append_singleton after c ih =>
      rw [trimRight_eq, trimRight_eq] at ih ⊢
      -- The last character is white space and goes, or all stays.
      rw [← List.append_assoc, List.rdropWhile_concat, List.rdropWhile_concat]
      split
      · exact ih
      · rw [List.append_assoc]

/-- A front without white space at its ends stays where it is. -/
theorem trimChars_append (hfront : front ≠ []) (htight : Tight front) :
    trimChars (front ++ after) = front ++ trimRight after := by
  obtain ⟨c, rest, rfl⟩ := List.exists_cons_of_ne_nil hfront
  have hc : ¬ isBlank c = true := by
    rw [htight.head c rfl]
    exact Bool.false_ne_true
  have hleft : trimLeft (c :: rest ++ after) = c :: rest ++ after := List.dropWhile_cons_of_neg hc
  rw [trimChars, hleft, trimRight_append htight]

end

/-! ## White space and case -/

/-- The ranges of white space. -/
def blankRanges : List (Nat × Nat) := [
  (9, 13), (28, 32), (0x85, 0x85), (0xA0, 0xA0), (0x1680, 0x1680), (0x2000, 0x200A),
  (0x2028, 0x2029), (0x202F, 0x202F), (0x205F, 0x205F), (0x3000, 0x3000)]

/-- A number outside of all ranges of white space. -/
def Inky (n : Int) : Prop := ∀ b ∈ blankRanges, n < b.1 ∨ b.2 < n

/-- White space lies in one of the ranges. -/
theorem isBlank_iff {c : Char} :
    isBlank c = true ↔ ∃ b ∈ blankRanges, b.1 ≤ c.toNat ∧ c.toNat ≤ b.2 := by
  simp only [isBlank, blankRanges, List.exists_mem_cons_iff, List.not_mem_nil, false_and,
    exists_false, or_false, Bool.or_eq_true, Bool.and_eq_true, decide_eq_true_eq, beq_iff_eq]
  constructor <;> omega

/-- Outside of all ranges there is no white space. -/
theorem isBlank_of_inky {c : Char} (h : Inky c.toNat) : isBlank c = false := by
  rw [← Bool.not_eq_true, isBlank_iff]
  rintro ⟨b, hb, hlow, hhigh⟩
  have hout := h b hb
  omega

/-- The number of a character that is made from a number; what is no character becomes zero. -/
theorem toNat_ofNat (n : Nat) : (Char.ofNat n).toNat = n ∨ (Char.ofNat n).toNat = 0 := by
  by_cases hn : n.isValidChar
  · left
    rw [Char.ofNat, dif_pos hn]
    rfl
  · right
    rw [Char.ofNat, dif_neg hn]
    rfl

/-- All numbers of a run, and those of its small letters, lie outside of white space. -/
theorem inky_of_mem_capitalRuns {r : Nat × Nat × Nat × Int} (hr : r ∈ capitalRuns) {n : Nat}
    (hlow : r.1 ≤ n) (hhigh : n ≤ r.2.1) : Inky n ∧ Inky (n + r.2.2.2) := by
  -- A run and a range are apart if their ends are.
  have htable : ∀ r ∈ capitalRuns, ∀ b ∈ blankRanges, (r.2.1 < b.1 ∨ b.2 < r.1) ∧
      ((r.2.1 : Int) + r.2.2.2 < b.1 ∨ (b.2 : Int) < r.1 + r.2.2.2) := by
    decide +kernel
  constructor
  · intro b hb
    have hout := (htable r hr b hb).1
    omega
  · intro b hb
    have hout := (htable r hr b hb).2
    omega

/-- No letter of a family is white space. -/
theorem inky_of_mem_caseFamilies {family : List Nat} (hfamily : family ∈ caseFamilies) {n : Nat}
    (hn : n ∈ family) : Inky n := by
  have htable : ∀ family ∈ caseFamilies, ∀ n ∈ family, ∀ b ∈ blankRanges, n < b.1 ∨ b.2 < n := by
    decide +kernel
  intro b hb
  have hout := htable family hfamily n hn b hb
  omega

/-- A character is white space just where its small letter is. -/
theorem isBlank_lowerChar (c : Char) : isBlank (lowerChar c) = isBlank c := by
  rw [lowerChar]
  split
  -- The first 128 characters are looked at one by one.
  next hascii =>
    have htable : ∀ n < 128, isBlank (Char.ofNat n).toLower = isBlank (Char.ofNat n) := by
      decide +kernel
    have hc := htable c.toNat hascii
    rwa [Char.ofNat_toNat] at hc
  next =>
    dsimp only
    split
    next r hfind =>
      have hrange := List.find?_some hfind
      simp only [Bool.and_eq_true, decide_eq_true_eq] at hrange
      obtain ⟨hcapital, hsmall⟩ :=
        inky_of_mem_capitalRuns (List.mem_of_find?_eq_some hfind) hrange.1.1 hrange.1.2
      have hzero : Inky 0 := by
        unfold Inky
        decide
      rw [isBlank_of_inky hcapital]
      apply isBlank_of_inky
      rcases toNat_ofNat ((c.toNat : Int) + r.2.2.2).toNat with hn | hn
      · rw [hn]
        intro b hb
        have hout := hsmall b hb
        have hout' := hzero b hb
        omega
      · rw [hn]
        exact hzero
    next => rfl

/-- Of two characters that count as one letter both are white space or none is. -/
theorem isBlank_of_sameLetter {a b : Char} (h : sameLetter a b = true) :
    isBlank a = isBlank b := by
  rw [← isBlank_lowerChar a, ← isBlank_lowerChar b]
  rw [sameLetter, Bool.or_eq_true, List.any_eq_true] at h
  rcases h with heq | ⟨family, hfamily, hboth⟩
  · rw [beq_iff_eq.mp heq]
  · -- Of the letters of a family none is white space.
    have hnone {c : Char} (hc : family.contains c.toNat = true) : isBlank c = false :=
      isBlank_of_inky (inky_of_mem_caseFamilies hfamily (List.contains_iff_mem.mp hc))
    obtain ⟨ha, hb⟩ := (Bool.and_eq_true _ _).mp hboth
    rw [hnone ha, hnone hb]

end FormPress.Text
