/-
  FormPress.Proofs.Section.Signing

  What an object says about a signature.  Each part of the signature has two
  fields.  The picture is that of the first field with a text
  (`Fields.firstText_eq`).  Name and date are those of the first field that is not
  null, even if it shows nothing, and such a field hides the text of the other one
  (`Fields.Hides`).  So the two fields are alternates for each other just where
  none is hidden (`signature_of_alternates`).
-/
import FormPress.Section.Signature
import Mathlib.Tactic.ByContra

namespace FormPress

/-! ## Alternates -/

/-- A text that is not empty. -/
def Value.someText? : Value → Option String
  | .text s => if s = "" then none else some s
  | _ => none

/-- What a value shows, unless that is nothing. -/
def Value.someShown? (v : Value) : Option String := if v.shown = "" then none else some v.shown

namespace Fields

/-- What is read from the first of some fields from which something is. -/
def firstOf (fields : Fields) (read : Value → Option String) (names : List String) :
    Option String :=
  names.findSome? fun name => read (fields.get name)

/-- A field that is given and shows nothing, while the other one of a part shows a text. -/
structure Hides (fields : Fields) (first second : String) : Prop where
  given : (fields.get first).isNull = false
  blank : (fields.get first).shown = ""
  text : (fields.get second).shown ≠ ""

variable {fields : Fields} {first second : String}

/-- The first text is that of the first field that has one. -/
theorem firstText_eq (fields : Fields) (names : List String) :
    firstText fields names = fields.firstOf Value.someText? names := by
  induction names with
  | nil => rfl
  | cons name names ih =>
      rw [firstText, firstOf, List.findSome?_cons, ← firstOf, ih]
      cases fields.get name with
      | scalar s =>
          cases s with
          | text t => by_cases ht : t = "" <;> simp [Value.someText?, ht]
          | _ => rfl
      | _ => rfl

theorem shown_of_isNull {v : Value} (h : v.isNull = true) : v.shown = "" := by
  unfold Value.isNull at h
  split at h
  · rfl
  · cases h

/-- Of two fields the first one is shown unless it is null. -/
theorem firstShown_pair (fields : Fields) (first second : String) :
    firstShown fields [first, second] =
      if (fields.get first).isNull = true then (fields.get second).shown
      else (fields.get first).shown := by
  simp only [firstShown]
  split
  · split
    next hsecond => rw [shown_of_isNull hsecond]
    next => rfl
  · rfl

/-- Of a hidden text nothing is shown. -/
theorem Hides.firstShown (h : Hides fields first second) :
    Fields.firstShown fields [first, second] = "" := by
  rw [firstShown_pair, h.given, if_neg Bool.false_ne_true, h.blank]

/-- Where no text is hidden, the first one of two fields is shown. -/
theorem firstShown_of_not_hides (h : ¬ Hides fields first second) :
    firstShown fields [first, second] =
      (fields.firstOf Value.someShown? [first, second]).getD "" := by
  rw [firstShown_pair]
  simp only [firstOf, List.findSome?_cons, List.findSome?_nil, Value.someShown?]
  by_cases hfirst : (fields.get first).shown = ""
  · -- The first field shows nothing. If the second one does, it may not be hidden.
    by_cases hsecond : (fields.get second).shown = ""
    · simp [hfirst, hsecond]
    · have hnull : (fields.get first).isNull = true := by
        by_contra hgiven
        exact h ⟨Bool.eq_false_iff.mpr hgiven, hfirst, hsecond⟩
      simp [hfirst, hsecond, hnull]
  · have hgiven : ¬ (fields.get first).isNull = true := fun hnull =>
      hfirst (shown_of_isNull hnull)
    simp [hfirst, hgiven]

/-- What is first shown of some fields is not empty. -/
theorem firstOf_someShown_ne_empty (fields : Fields) (names : List String) :
    fields.firstOf Value.someShown? names ≠ some "" := by
  intro h
  obtain ⟨name, -, hname⟩ := List.exists_of_findSome?_eq_some h
  rw [Value.someShown?, Option.ite_none_left_eq_some] at hname
  exact hname.1 (Option.some.inj hname.2)

end Fields

/-! ## Signatures -/

/-- The signature that an object holds. -/
abbrev Fields.signature (fields : Fields) (otherName : String) : Signature :=
  (AnswerValue.structured (.object fields)).signature otherName

namespace Signature

/-- A signature whose parts are each taken from the first of two fields that has a text; another
    name stands in for a missing one. -/
structure TakesAlternates (s : Signature) (fields : Fields) (otherName : String) : Prop where
  image : s.image = fields.firstOf Value.someText? ["signature", "imageDataUrl"]
  name : s.name = (fields.firstOf Value.someShown? ["name", "fullName"]).getD otherName
  date : s.date = (fields.firstOf Value.someShown? ["date", "signedAtDate"]).getD ""

/-- A signature whose picture is taken that way, and name and date too unless a field without a
    text hides the other one: then the other name stands there, and no date. -/
structure TakesUnhidden (s : Signature) (fields : Fields) (otherName : String) : Prop where
  image : s.image = fields.firstOf Value.someText? ["signature", "imageDataUrl"]
  name : ¬ fields.Hides "name" "fullName" →
    s.name = (fields.firstOf Value.someShown? ["name", "fullName"]).getD otherName
  hiddenName : fields.Hides "name" "fullName" → s.name = otherName
  date : ¬ fields.Hides "date" "signedAtDate" →
    s.date = (fields.firstOf Value.someShown? ["date", "signedAtDate"]).getD ""
  hiddenDate : fields.Hides "date" "signedAtDate" → s.date = ""

/-- A signature that shows a text for a part if one of the two fields of the part does. -/
structure ShowsTexts (s : Signature) (fields : Fields) : Prop where
  name : ∀ field ∈ ["name", "fullName"], (fields.get field).shown ≠ "" → s.name ≠ ""
  date : ∀ field ∈ ["date", "signedAtDate"], (fields.get field).shown ≠ "" → s.date ≠ ""

end Signature

section

variable {fields : Fields} {otherName : String}

/-- A hidden text is the first one that is shown, since the field in front of it shows nothing. -/
theorem Fields.Hides.firstOf {first second : String} (h : Hides fields first second) :
    fields.firstOf Value.someShown? [first, second] = some (fields.get second).shown := by
  simp [Fields.firstOf, Value.someShown?, h.blank, h.text]

/-- A signature takes each part from its fields, but for hidden texts. -/
theorem signature_takesUnhidden (fields : Fields) (otherName : String) :
    (fields.signature otherName).TakesUnhidden fields otherName where
  image := Fields.firstText_eq fields ["signature", "imageDataUrl"]
  name h := by
    rw [Fields.signature, AnswerValue.signature, Fields.firstShown_of_not_hides h]
    have hne := Fields.firstOf_someShown_ne_empty fields ["name", "fullName"]
    cases hfirst : fields.firstOf Value.someShown? ["name", "fullName"] with
    | none => rfl
    | some s =>
        have hs : ¬ s = "" := fun heq => hne (by rw [hfirst, heq])
        simp [orText, hs]
  hiddenName h := by
    rw [Fields.signature, AnswerValue.signature, h.firstShown]
    rfl
  date h := Fields.firstShown_of_not_hides h
  hiddenDate h := h.firstShown

/-- Where both fields are looked at for a text, none of them is lost. -/
theorem Signature.TakesAlternates.showsTexts {s : Signature}
    (h : s.TakesAlternates fields otherName) : s.ShowsTexts fields := by
  have hsome {names : List String} {field : String} (hfield : field ∈ names)
      (htext : (fields.get field).shown ≠ "") (default : String) :
      (fields.firstOf Value.someShown? names).getD default ≠ "" := by
    -- A field with a text is one from which something is read, so something is found.
    cases hfirst : fields.firstOf Value.someShown? names with
    | none =>
        have hnone := List.findSome?_eq_none_iff.mp hfirst field hfield
        rw [Value.someShown?, if_neg htext] at hnone
        cases hnone
    | some s =>
        rintro rfl
        exact Fields.firstOf_someShown_ne_empty fields names hfirst
  constructor
  · intro field hfield htext
    rw [h.name]
    exact hsome hfield htext otherName
  · intro field hfield htext
    rw [h.date]
    exact hsome hfield htext ""

end

/-- The fields of an object on a signature are alternates but for hidden texts: just where no date is
    hidden, and no name unless it is the other name itself.  Then no text of a part is lost. -/
theorem signature_of_alternates (fields : Fields) (otherName : String) :
    (fields.signature otherName).TakesUnhidden fields otherName ∧
      ((fields.signature otherName).TakesAlternates fields otherName ↔
        (fields.Hides "name" "fullName" → (fields.get "fullName").shown = otherName) ∧
          ¬ fields.Hides "date" "signedAtDate") ∧
      ((fields.signature otherName).TakesAlternates fields otherName →
        (fields.signature otherName).ShowsTexts fields) := by
  have hunhidden := signature_takesUnhidden fields otherName
  refine ⟨hunhidden, ⟨?_, ?_⟩, Signature.TakesAlternates.showsTexts⟩
  · intro halternates
    constructor
    · intro hhides
      have hname := halternates.name
      rw [hunhidden.hiddenName hhides, hhides.firstOf] at hname
      exact hname.symm
    · intro hhides
      have hdate := halternates.date
      rw [hunhidden.hiddenDate hhides, hhides.firstOf] at hdate
      exact hhides.text hdate.symm
  · rintro ⟨hname, hdate⟩
    refine ⟨hunhidden.image, ?_, hunhidden.date hdate⟩
    by_cases hhides : fields.Hides "name" "fullName"
    · rw [hunhidden.hiddenName hhides, hhides.firstOf, hname hhides]
      rfl
    · exact hunhidden.name hhides

/-- An empty name hides the full name behind it, and an empty date the date of signing. -/
theorem empty_fields_hide_alternates :
    ¬ ∀ (fields : Fields) (otherName : String),
      (fields.signature otherName).TakesAlternates fields otherName := by
  intro halternates
  have hsigned := halternates [(.text "name", .text ""), (.text "fullName", .text "Ann"),
    (.text "date", .text ""), (.text "signedAtDate", .text "2024-05-01")] ""
  have hname : "" = "Ann" := hsigned.name
  exact absurd hname (by decide)

end FormPress
