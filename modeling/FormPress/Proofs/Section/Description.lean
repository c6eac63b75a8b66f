/-
  FormPress.Proofs.Section.Description

  The two parts of a description on reasonable adjustment.  The cut stands in
  front of the first occurrence of the marker in any case, so the first part has
  none, and apart from white space nothing of the description is lost
  (`splitDescription_parts`).  A marker without white space at its ends stands at
  the front of the second part: what counts as the same letter as one of its
  characters is no white space either, so trimming does not reach the occurrence.
-/
import FormPress.Proofs.Text.Search
import FormPress.Section.Adjustment

namespace FormPress

open Text

/-- The two parts of a description with a marker. -/
structure DescriptionParts (marker description intro note : List Char) : Prop where
  /-- apart from white space the parts together are the description -/
  kept : inked (intro ++ note) = inked description
  /-- the marker does not occur in the first part -/
  before : ¬ Occurs marker intro
  /-- the second part is missing where the marker does not occur, or only white space stands from
      its first occurrence on -/
  missing : note = [] ↔ ¬ Occurs marker description ∨ ∃ front rest,
    FirstSuffix (Begins marker) description front rest ∧ ∀ c ∈ rest, isBlank c = true
  /-- the second part begins with the marker, unless that has white space at an end -/
  begins : Tight marker → Occurs marker description → Begins marker note

section

variable {marker s front rest : List Char}

/-- An uncut description without its white space is the first part. -/
theorem descriptionParts_of_not_occurs (h : ¬ Occurs marker s) :
    DescriptionParts marker s (trimChars s) [] where
  kept := by rw [List.append_nil, inked_trimChars]
  before hoccurs := h (hoccurs.mono (infix_of_trimChars s))
  missing := iff_of_true rfl (.inl h)
  begins _ hoccurs := absurd hoccurs h

/-- A description that is cut in front of the first occurrence of the marker. -/
theorem descriptionParts_of_first (h : FirstSuffix (Begins marker) s front rest)
    (hmarker : marker ≠ []) : DescriptionParts marker s (trimChars front) (trimChars rest) where
  kept := by rw [inked_append, inked_trimChars, inked_trimChars, ← inked_append, h.whole]
  before hoccurs := h.not_occurs hmarker (hoccurs.mono (infix_of_trimChars front))
  missing := by
    rw [trimChars_eq_nil_iff]
    constructor
    · intro hblank
      exact .inr ⟨front, rest, h, hblank⟩
    · rintro (hnone | ⟨front', rest', h', hblank⟩)
      · exact absurd h.occurs hnone
      · rwa [(h.unique h').2]
  begins htight _ := by
    obtain ⟨part, ⟨behind, rfl⟩, hsame⟩ := h.holds
    have hpart : part ≠ [] := by
      rintro rfl
      cases hsame
      exact hmarker rfl
    refine ⟨part, ?_, hsame⟩
    rw [trimChars_append hpart (hsame.tight htight)]
    exact List.prefix_append ..

end

/-- Cutting a description in two at a marker loses none of its text: white space apart, the parts
    together are the description, and the marker occurs only in the second one. -/
theorem splitDescription_parts (description : Option String) (marker : String)
    (hmarker : marker ≠ "") :
    DescriptionParts marker.toList (description.getD "").toList
      (splitDescription description marker).1.toList
      (splitDescription description marker).2.toList := by
  have hmarker' : marker.toList ≠ [] := fun h => hmarker (String.toList_eq_nil_iff.mp h)
  cases description with
  | none =>
      -- A missing description is cut like an empty one, in which no marker occurs.
      refine descriptionParts_of_not_occurs (s := []) ?_
      rintro ⟨part, hpart, hsame⟩
      rw [List.infix_nil.mp hpart] at hsame
      exact hmarker' (List.forall₂_nil_right_iff.mp hsame)
  | some s =>
      rw [splitDescription, Option.getD_some]
      cases hsplit : splitIgnoringCase marker.toList s.toList with
      | none =>
          rw [trim, String.toList_ofList]
          exact descriptionParts_of_not_occurs (splitIgnoringCase_eq_none_iff.mp hsplit)
      | some parts =>
          obtain ⟨front, rest⟩ := parts
          rw [String.toList_ofList, String.toList_ofList]
          exact descriptionParts_of_first (splitIgnoringCase_eq_some_iff.mp hsplit) hmarker'

/-- A marker that occurs twice, the first time in other letters, and the white space around the
    place of the cut. -/
theorem splitDescription_parts_of_capitals :
    "In the case that" ≠ "" ∧
      splitDescription (some " Apply first.\n IN THE CASE THAT in the case that ")
        "In the case that" = ("Apply first.", "IN THE CASE THAT in the case that") ∧
      DescriptionParts "In the case that".toList
        " Apply first.\n IN THE CASE THAT in the case that ".toList
        "Apply first.".toList "IN THE CASE THAT in the case that".toList := by
  have hmarker : "In the case that" ≠ "" := by decide
  have hsplit : splitDescription (some " Apply first.\n IN THE CASE THAT in the case that ")
      "In the case that" = ("Apply first.", "IN THE CASE THAT in the case that") := by
    decide +kernel
  have hparts := splitDescription_parts
    (some " Apply first.\n IN THE CASE THAT in the case that ") "In the case that" hmarker
  rw [hsplit] at hparts
  exact ⟨hmarker, hsplit, hparts⟩

end FormPress
