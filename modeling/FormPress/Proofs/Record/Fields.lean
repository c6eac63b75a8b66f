/-
  FormPress.Proofs.Record.Fields

  Readings of several fields and the fields themselves.  A reading made of
  others gives a record where each of them gives its part (`Check.exists_seq`).
  A field that is set is found under its name, and the others are found as
  before (`Fields.get?_set`); names that are set one after the other are all
  there once and in this order (`Fields.set_of_new`).
-/
import FormPress.Record.Check

namespace FormPress

/-! ## Readings with several fields -/

namespace Check

variable {α β : Type} {x : Check α} {a : α}

/-- What a reading is turned into fits if the reading does. -/
theorem exists_map {f : α → β} {q : β → Prop} :
    (∃ b, f <$> x = .fits b ∧ q b) ↔ ∃ a, x = .fits a ∧ q (f a) := by
  cases x with
  | fits a =>
      constructor
      · rintro ⟨_, hb, hq⟩
        exact ⟨a, rfl, Check.fits.inj hb ▸ hq⟩
      · rintro ⟨_, ha, hq⟩
        exact ⟨_, rfl, Check.fits.inj ha ▸ hq⟩
  | faults fs => exact ⟨fun ⟨_, h, _⟩ => (nomatch h), fun ⟨_, h, _⟩ => (nomatch h)⟩

/-- Two readings fit if each of them does; faults of the second are found all the same. -/
theorem exists_seq {f : Check (α → β)} {q : β → Prop} :
    (∃ b, f <*> x = .fits b ∧ q b) ↔ ∃ g, f = .fits g ∧ ∃ a, x = .fits a ∧ q (g a) := by
  cases f with
  | fits g =>
      cases x with
      | fits a =>
          constructor
          · rintro ⟨_, hb, hq⟩
            exact ⟨g, rfl, a, rfl, Check.fits.inj hb ▸ hq⟩
          · rintro ⟨_, hg, _, ha, hq⟩
            exact ⟨_, rfl, Check.fits.inj hg ▸ Check.fits.inj ha ▸ hq⟩
      | faults fs => exact ⟨fun ⟨_, h, _⟩ => (nomatch h), fun ⟨_, _, _, h, _⟩ => (nomatch h)⟩
  | faults fs =>
      -- The faults of the first stay, whatever the second gives.
      refine ⟨fun ⟨_, h, _⟩ => ?_, fun ⟨_, h, _⟩ => nomatch h⟩
      cases x <;> cases h

theorem fits_inside_iff {step : PlaceStep} : x.inside step = .fits a ↔ x = .fits a := by
  cases x with
  | fits b => exact Iff.rfl
  | faults fs => exact ⟨fun h => (nomatch h), fun h => (nomatch h)⟩

theorem fits_of_inside {step : PlaceStep} (h : x.inside step = .fits a) : x = .fits a :=
  fits_inside_iff.mp h

end Check

/-! ## Names of fields -/

/-- A key is a name if and only if it is the text of this name. -/
theorem Scalar.sameKey_text {key : Scalar} {name : String} :
    key.sameKey (.text name) = true ↔ key = .text name := by
  cases key <;>
    simp [Scalar.sameKey, Scalar.same, Scalar.isUndefined, Scalar.number?]

namespace Fields

variable {fields : Fields} {name other : String} {v : Value}

/-- A name is not found if it is no key. -/
theorem get?_eq_none_iff : Fields.get? fields name = none ↔ .text name ∉ fields.map Prod.fst := by
  rw [Fields.get?, Fields.find?, Option.map_eq_none_iff, List.find?_eq_none, List.mem_map]
  simp only [Scalar.sameKey_text]
  exact ⟨fun h ⟨p, hp, hkey⟩ => h p hp hkey, fun h p hp hkey => h ⟨p, hp, hkey⟩⟩

/-- Setting a name that is not there adds it at the end. -/
theorem set_of_new (h : .text name ∉ fields.map Prod.fst) :
    Fields.set fields (.text name) v = fields ++ [(.text name, v)] := by
  have hnone : ¬ fields.any (fun f => f.1.sameKey (.text name)) = true := by
    rw [List.any_eq_true]
    rintro ⟨p, hp, hkey⟩
    exact h (List.mem_map.mpr ⟨p, hp, Scalar.sameKey_text.mp hkey⟩)
  rw [Fields.set, if_neg hnone]

/-- Setting a name that is there leaves all names in their places. -/
theorem map_fst_set (h : .text name ∈ fields.map Prod.fst) :
    (Fields.set fields (.text name) v).map Prod.fst = fields.map Prod.fst := by
  obtain ⟨p, hp, hkey⟩ := List.mem_map.mp h
  have hany : fields.any (fun f => f.1.sameKey (.text name)) = true :=
    List.any_eq_true.mpr ⟨p, hp, Scalar.sameKey_text.mpr hkey⟩
  rw [Fields.set, if_pos hany, List.map_map]
  apply List.map_congr_left
  intro f _
  rw [Function.comp_apply]
  split <;> rfl

/-- The first field is looked at first. -/
theorem get?_cons {f : Scalar × Value} :
    Fields.get? (f :: fields) name =
      if f.1.sameKey (.text name) then some f.2 else Fields.get? fields name := by
  rw [Fields.get?, Fields.find?, List.find?_cons]
  cases f.1.sameKey (.text name) <;> rfl

/-- A name is looked up in the fields behind if it is not among those in front. -/
theorem get?_append {more : Fields} :
    Fields.get? (fields ++ more) name = (Fields.get? fields name).or (Fields.get? more name) := by
  simp only [Fields.get?, Fields.find?, List.find?_append, Option.map_or]

/-- Only the name that is set is found with another value. -/
theorem get?_map_set :
    Fields.get? (fields.map fun f => (f.1, if f.1.sameKey (.text name) then v else f.2)) other =
      (Fields.get? fields other).map fun w => if name = other then v else w := by
  induction fields with
  | nil => rfl
  | cons f rest ih =>
      rw [List.map_cons, get?_cons, get?_cons, ih]
      by_cases hother : f.1.sameKey (.text other) = true
      · -- The search stops here, at the same key as before.
        have hname : f.1.sameKey (.text name) = true ↔ name = other := by
          rw [Scalar.sameKey_text, Scalar.sameKey_text.mp hother, Scalar.text.injEq, eq_comm]
        simp only [if_pos hother, Option.map_some, hname]
      · rw [if_neg hother, if_neg hother]

/-- A field that is set is found under its name, all others are found as before. -/
theorem get?_set :
    Fields.get? (Fields.set fields (.text name) v) other =
      if name = other then some v else Fields.get? fields other := by
  -- A name that is there is written over in its place, a new one is added behind the others.
  by_cases hthere : .text name ∈ fields.map Prod.fst
  · obtain ⟨p, hp, hkey⟩ := List.mem_map.mp hthere
    have hany : fields.any (fun f => f.1.sameKey (.text name)) = true :=
      List.any_eq_true.mpr ⟨p, hp, Scalar.sameKey_text.mpr hkey⟩
    have hwrite : (fun f : Scalar × Value => if f.1.sameKey (.text name) then (f.1, v) else f) =
        fun f => (f.1, if f.1.sameKey (.text name) then v else f.2) := by
      funext f
      split <;> rfl
    rw [Fields.set, if_pos hany, hwrite, get?_map_set]
    by_cases hsame : name = other
    · obtain ⟨w, hw⟩ := Option.ne_none_iff_exists'.mp fun hnone =>
        get?_eq_none_iff.mp hnone (hsame ▸ hthere)
      rw [hw, Option.map_some, if_pos hsame, if_pos hsame]
    · simp only [if_neg hsame, Option.map_id']
  · have hnone := get?_eq_none_iff.mpr hthere
    rw [set_of_new hthere, get?_append, get?_cons]
    simp only [Scalar.sameKey_text, Scalar.text.injEq]
    by_cases hsame : name = other
    · rw [if_pos hsame, if_pos hsame, ← hsame, hnone, Option.none_or]
    · rw [if_neg hsame, if_neg hsame]
      exact Option.or_none

end Fields

end FormPress
