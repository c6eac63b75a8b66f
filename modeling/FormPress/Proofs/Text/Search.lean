/-
  FormPress.Proofs.Text.Search

  Searches without regard to case.  A pattern occurs in a text where a part of
  the text is the pattern letter by letter (`Occurs`).  The search cuts the text at
  the first occurrence (`splitIgnoringCase_eq_some_iff`), and finds none just
  where there is none (`splitIgnoringCase_eq_none_iff`).  Both are inductions on
  the text, since what matches is always a suffix of it (`FirstSuffix`).
-/
import FormPress.Proofs.Text.Blank
import Mathlib.Data.List.Forall2
import Mathlib.Data.List.Infix

namespace FormPress.Text

/-! ## The first suffix of a kind -/

/-- A cut of a text in front of the first suffix on which a test succeeds. -/
structure FirstSuffix (P : List Char → Prop) (s before rest : List Char) : Prop where
  whole : before ++ rest = s
  holds : P rest
  first : ∀ t, t <:+ s → P t → t <:+ rest

/-- There is one cut in front of the first suffix of a kind. -/
theorem FirstSuffix.unique {P : List Char → Prop} {s b r b' r' : List Char}
    (h : FirstSuffix P s b r) (h' : FirstSuffix P s b' r') : b = b' ∧ r = r' := by
  have hsuffix := h'.first r ⟨b, h.whole⟩ h.holds
  have hsuffix' := h.first r' ⟨b', h'.whole⟩ h'.holds
  have hrest : r = r' := hsuffix.eq_of_length_le hsuffix'.length_le
  have hwhole : b ++ r = b' ++ r := by rw [h.whole, hrest, h'.whole]
  exact ⟨List.append_cancel_right hwhole, hrest⟩

section

variable {matcher : List Char → Bool} {s before rest : List Char}

/-- Where the search cuts, it cuts in front of the first suffix that matches. -/
theorem splitAtFirst_first (h : splitAtFirst matcher s = some (before, rest)) :
    FirstSuffix (matcher · = true) s before rest := by
  induction s generalizing before with
  | nil =>
      rw [splitAtFirst] at h
      split at h
      next hmatch =>
        cases h
        exact ⟨rfl, hmatch, fun t ht _ => ht⟩
      next => cases h
  | cons c s ih =>
      rw [splitAtFirst] at h
      split at h
      next hmatch =>
        cases h
        exact ⟨rfl, hmatch, fun t ht _ => ht⟩
      next hmiss =>
        obtain ⟨⟨before', rest'⟩, hsplit, hparts⟩ := Option.map_eq_some_iff.mp h
        cases hparts
        have hfirst := ih hsplit
        refine ⟨congrArg (c :: ·) hfirst.whole, hfirst.holds, fun t ht hmatch => ?_⟩
        -- The whole text does not match, so what matches is a suffix of what is behind `c`.
        rcases List.suffix_cons_iff.mp ht with rfl | ht
        · exact absurd hmatch hmiss
        · exact hfirst.first t ht hmatch

/-- The search fails just where no suffix matches. -/
theorem splitAtFirst_eq_none_iff :
    splitAtFirst matcher s = none ↔ ∀ t, t <:+ s → ¬ matcher t = true := by
  induction s with
  | nil =>
      rw [splitAtFirst]
      simp only [List.suffix_nil, forall_eq]
      split <;> simp [*]
  | cons c s ih =>
      rw [splitAtFirst]
      simp only [List.suffix_cons_iff, forall_eq_or_imp]
      split
      next hmatch => simp [hmatch]
      next hmiss => rw [Option.map_eq_none_iff, ih, and_iff_right hmiss]

/-- The search cuts a text just in front of the first suffix that matches. -/
theorem splitAtFirst_eq_some_iff :
    splitAtFirst matcher s = some (before, rest) ↔
      FirstSuffix (matcher · = true) s before rest := by
  refine ⟨splitAtFirst_first, fun h => ?_⟩
  cases hsplit : splitAtFirst matcher s with
  | none => exact absurd h.holds (splitAtFirst_eq_none_iff.mp hsplit rest ⟨before, h.whole⟩)
  | some parts =>
      obtain ⟨before', rest'⟩ := parts
      obtain ⟨rfl, rfl⟩ := h.unique (splitAtFirst_first hsplit)
      rfl

end

/-! ## Occurrences -/

section

variable {pattern s before rest : List Char}

/-- Texts that are equal letter by letter, whatever the case. -/
def SameLetters (s t : List Char) : Prop := List.Forall₂ (fun a b => sameLetter a b = true) s t

/-- A text begins with a pattern, in any case. -/
def Begins (pattern s : List Char) : Prop := ∃ part, part <+: s ∧ SameLetters pattern part

/-- A pattern occurs in a text, in any case. -/
def Occurs (pattern s : List Char) : Prop := ∃ part, part <:+: s ∧ SameLetters pattern part

/-- A pattern occurs where some suffix of the text begins with it. -/
theorem occurs_iff : Occurs pattern s ↔ ∃ t, t <:+ s ∧ Begins pattern t := by
  constructor
  · rintro ⟨part, ⟨front, back, hs⟩, hsame⟩
    exact ⟨part ++ back, ⟨front, by rw [← hs, List.append_assoc]⟩, part, ⟨back, rfl⟩, hsame⟩
  · rintro ⟨t, ht, part, hpart, hsame⟩
    exact ⟨part, hpart.isInfix.trans ht.isInfix, hsame⟩

theorem Occurs.mono {t : List Char} (h : Occurs pattern s) (hs : s <:+: t) : Occurs pattern t :=
  let ⟨part, hpart, hsame⟩ := h
  ⟨part, hpart.trans hs, hsame⟩

/-- The program's test is whether the text begins with the pattern. -/
theorem startsIgnoringCase_iff : startsIgnoringCase pattern s = true ↔ Begins pattern s := by
  rw [startsIgnoringCase]
  induction pattern generalizing s with
  | nil => exact iff_of_true rfl ⟨[], List.nil_prefix, .nil⟩
  | cons p pattern ih =>
      cases s with
      | nil =>
          refine iff_of_false (by simp [dropIgnoringCase]) ?_
          rintro ⟨part, hpart, hsame⟩
          rw [List.prefix_nil.mp hpart] at hsame
          cases hsame
      | cons c s =>
          rw [dropIgnoringCase]
          constructor
          · intro h
            split at h
            next hletter =>
              obtain ⟨part, hpart, hsame⟩ := ih.mp h
              exact ⟨c :: part, (List.prefix_cons_inj c).mpr hpart, .cons hletter hsame⟩
            next => cases h
          · rintro ⟨part, hpart, hsame⟩
            cases hsame with
            | cons hletter hsame =>
                obtain ⟨rfl, hrest⟩ := List.cons_prefix_cons.mp hpart
                rw [if_pos hletter]
                exact ih.mpr ⟨_, hrest, hsame⟩

/-- The search cuts a text in front of the first occurrence of the pattern. -/
theorem splitIgnoringCase_eq_some_iff :
    splitIgnoringCase pattern s = some (before, rest) ↔
      FirstSuffix (Begins pattern) s before rest := by
  have hmatcher : (fun t => startsIgnoringCase pattern t = true) = Begins pattern :=
    funext fun t => propext startsIgnoringCase_iff
  rw [splitIgnoringCase, splitAtFirst_eq_some_iff, hmatcher]

/-- The search fails just where the pattern does not occur. -/
theorem splitIgnoringCase_eq_none_iff :
    splitIgnoringCase pattern s = none ↔ ¬ Occurs pattern s := by
  rw [splitIgnoringCase, splitAtFirst_eq_none_iff, occurs_iff]
  simp only [startsIgnoringCase_iff, not_exists, not_and]

/-- A pattern occurs where the text is cut. -/
theorem FirstSuffix.occurs (h : FirstSuffix (Begins pattern) s before rest) : Occurs pattern s :=
  occurs_iff.mpr ⟨rest, ⟨before, h.whole⟩, h.holds⟩

/-- In front of the first occurrence of a pattern there is none, unless the pattern is empty. -/
theorem FirstSuffix.not_occurs (h : FirstSuffix (Begins pattern) s before rest)
    (hpattern : pattern ≠ []) : ¬ Occurs pattern before := by
  intro hoccurs
  obtain ⟨t, ⟨front, hbefore⟩, part, hpart, hsame⟩ := occurs_iff.mp hoccurs
  -- With what is behind the cut, the occurrence is a suffix that is longer than the first one.
  have hsuffix : t ++ rest <:+ s := ⟨front, by rw [← List.append_assoc, hbefore, h.whole]⟩
  have hbegins : Begins pattern (t ++ rest) := ⟨part, hpart.trans (List.prefix_append ..), hsame⟩
  have hlength := (h.first _ hsuffix hbegins).length_le
  have hpart_length : pattern.length = part.length := hsame.length_eq
  have hpattern_length := List.length_pos_iff.mpr hpattern
  have ht := hpart.length_le
  rw [List.length_append] at hlength
  omega

/-- What is letter by letter a text without white space at its ends has none there either. -/
theorem SameLetters.tight {part : List Char} (h : SameLetters pattern part)
    (htight : Tight pattern) : Tight part := by
  have hhead {s t : List Char} (h : SameLetters s t) (hs : ∀ c ∈ s.head?, isBlank c = false) :
      ∀ c ∈ t.head?, isBlank c = false := by
    cases h with
    | nil => exact hs
    | cons hletter _ =>
        rintro c ⟨⟩
        rw [← isBlank_of_sameLetter hletter]
        exact hs _ rfl
  constructor
  · exact hhead h htight.head
  · have hreverse : SameLetters pattern.reverse part.reverse := List.rel_reverse h
    have hlast := hhead hreverse (by rw [List.head?_reverse]; exact htight.last)
    rwa [List.head?_reverse] at hlast

end

end FormPress.Text
