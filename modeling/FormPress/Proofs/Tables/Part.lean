/-
  FormPress.Proofs.Tables.Part

  Parts of forms as they are read out of records.  For each kind of part its
  reading, its id and its order number belong together (`PartKind`): a record in
  which no text stands for these numbers stands at the place of the part that is
  read out of it (`PartKind.Reads.standsAt`).
-/
import FormPress.Proofs.Record.Fields
import FormPress.Proofs.Tables.Keys

namespace FormPress

/-! ## Readings of records -/

/-- A record that is read fits, under the same fields. -/
theorem FormTables.fits_of_readRecord {α : Type} {kind : RecordKind} {read : Fields → Check α}
    {r : Record} {a : α} (h : readRecord kind read r = .ok a) : read r = .fits a := by
  obtain ⟨named, hnamed, hread⟩ := bind_eq_ok_iff.mp h
  obtain rfl : r = named := by
    rw [Fields.named] at hnamed
    split at hnamed
    · exact Except.ok.inj hnamed
    · cases hnamed
  cases hfits : read r with
  | fits b =>
      rw [hfits] at hread
      exact congrArg Check.fits (Except.ok.inj hread)
  | faults fs =>
      rw [hfits] at hread
      cases hread

/-- A required number is equal to what it is read from, unless that is a text. -/
theorem Record.whole?_of_required {r : Record} {name : String} {n : Int}
    (h : Fields.required r name Read.whole = .fits n)
    (hname : (Fields.get r name).isSpelled = false) : (Fields.get r name).whole? = some n := by
  rw [Fields.required] at h
  rw [Fields.get] at hname ⊢
  cases hfound : Fields.get? r name with
  | none =>
      rw [hfound] at h
      cases h
  | some v =>
      simp only [hfound] at h
      rw [hfound] at hname
      exact Value.whole?_of_read (Check.fits_of_inside h) hname

/-- A whole number is read as itself. -/
theorem Record.eq_of_required {r : Record} {name : String} {m n : Int}
    (h : Fields.required r name Read.whole = .fits m) (hn : r.number? name = some n) : m = n := by
  have hget := Record.number?_eq_some_iff.mp hn
  have hwhole := Record.whole?_of_required h (by rw [hget]; rfl)
  rw [hget, Value.whole?_int] at hwhole
  exact (Option.some.inj hwhole).symm

/-- A form has the number that its record is read under. -/
theorem Form.id_of_read {fields : Fields} {f : Form} (h : Form.read fields = .fits f) :
    fields.required "id" Read.whole = .fits f.id := by
  have h : ∃ b, Form.read fields = .fits b ∧ b = f := ⟨f, h, rfl⟩
  simp only [Form.read, Check.exists_seq, Check.exists_map] at h
  obtain ⟨_, hid, _, -, _, -, _, -, _, -, _, -, _, -, _, -, _, -, rfl⟩ := h
  exact hid

/-! ## Kinds of parts -/

/-- How the parts of a kind are read, and what says where they stand. -/
structure PartKind (α : Type) where
  kind : RecordKind
  read : Fields → Check α
  id : α → Int
  sortOrder : α → Int
  reads : ∀ fields a, read fields = .fits a →
    fields.required "id" Read.whole = .fits (id a) ∧ fields.sortOrder = .fits (sortOrder a)

namespace PartKind

/-- Steps as parts. -/
def step : PartKind Step where
  kind := .step
  read := Step.read
  id := (·.id)
  sortOrder := (·.sortOrder)
  reads fields a h := by
    have h : ∃ b, Step.read fields = .fits b ∧ b = a := ⟨a, h, rfl⟩
    simp only [Step.read, Check.exists_seq, Check.exists_map] at h
    obtain ⟨_, hid, _, -, _, -, _, horder, rfl⟩ := h
    exact ⟨hid, horder⟩

/-- Sections as parts. -/
def header : PartKind Section where
  kind := .section
  read := Section.read
  id := (·.id)
  sortOrder := (·.sortOrder)
  reads fields a h := by
    have h : ∃ b, Section.read fields = .fits b ∧ b = a := ⟨a, h, rfl⟩
    simp only [Section.read, Check.exists_seq, Check.exists_map] at h
    obtain ⟨_, hid, _, -, _, -, _, -, _, -, _, -, _, horder, rfl⟩ := h
    exact ⟨hid, horder⟩

/-- Questions as parts. -/
def question : PartKind Question where
  kind := .question
  read := Question.read
  id := (·.id)
  sortOrder := (·.sortOrder)
  reads fields a h := by
    have h : ∃ b, Question.read fields = .fits b ∧ b = a := ⟨a, h, rfl⟩
    simp only [Question.read, Check.exists_seq, Check.exists_map] at h
    obtain ⟨_, hid, _, -, _, -, _, -, _, -, _, -, _, -, _, horder, _, -, _, -, _, -, rfl⟩ := h
    exact ⟨hid, horder⟩

/-- Options as parts. -/
def option : PartKind QuestionOption where
  kind := .option
  read := QuestionOption.read
  id := (·.id)
  sortOrder := (·.sortOrder)
  reads fields a h := by
    have h : ∃ b, QuestionOption.read fields = .fits b ∧ b = a := ⟨a, h, rfl⟩
    simp only [QuestionOption.read, Check.exists_seq, Check.exists_map] at h
    obtain ⟨_, hid, _, -, _, -, _, -, _, horder, rfl⟩ := h
    exact ⟨hid, horder⟩

/-- Rows as parts. -/
def row : PartKind QuestionRow where
  kind := .row
  read := QuestionRow.read
  id := (·.id)
  sortOrder := (·.sortOrder)
  reads fields a h := by
    have h : ∃ b, QuestionRow.read fields = .fits b ∧ b = a := ⟨a, h, rfl⟩
    simp only [QuestionRow.read, Check.exists_seq, Check.exists_map] at h
    obtain ⟨_, hid, _, -, _, -, _, -, _, -, _, -, _, horder, rfl⟩ := h
    exact ⟨hid, horder⟩

variable {α : Type} (k : PartKind α)

/-- The part that a record is read as. -/
def Reads (r : Record) (a : α) : Prop := FormTables.readRecord k.kind k.read r = .ok a

/-- The part that a record is read as, with the key that it has in a field. -/
def ReadsBelow (field : String) (r : Record) (p : Int × α) : Prop :=
  r.number? field = some p.1 ∧ k.Reads r p.2

/-- Whether a record fits. -/
def fits (r : Record) : Bool := (FormTables.readRecord k.kind k.read r).isOk

/-- The place of a part: its order number and its id, as pairs are ordered. -/
def place (a : α) : Int ×ₗ Int := toLex (k.sortOrder a, k.id a)

variable {k} {r : Record} {a : α}

/-- A record that fits is read as some part. -/
theorem exists_reads (h : k.fits r = true) : ∃ a, k.Reads r a := by
  rw [fits] at h
  cases hread : FormTables.readRecord k.kind k.read r with
  | ok a => exact ⟨a, hread⟩
  | error e =>
      rw [hread] at h
      cases h

/-- Id and order number of a part are read from its record. -/
theorem Reads.fields (h : k.Reads r a) :
    Fields.required r "id" Read.whole = .fits (k.id a) ∧
      Fields.sortOrder r = .fits (k.sortOrder a) :=
  k.reads r a (FormTables.fits_of_readRecord h)

/-- A part has the number that its record holds as id. -/
theorem Reads.id_eq (h : k.Reads r a) {n : Int} (hid : r.number? "id" = some n) : k.id a = n :=
  Record.eq_of_required h.fields.1 hid

theorem Reads.whole?_id (h : k.Reads r a) (hid : (Fields.get r "id").isSpelled = false) :
    (Fields.get r "id").whole? = some (k.id a) :=
  Record.whole?_of_required h.fields.1 hid

/-- A record stands at the place of its part, unless the place is given by texts. -/
theorem Reads.standsAt (h : k.Reads r a) (hr : r.isSpelled = false) : r.StandsAt (k.place a) := by
  obtain ⟨horder, hid⟩ := Bool.or_eq_false_iff.mp hr
  refine ⟨?_, Value.whole?_orElse (h.whole?_id hid)⟩
  have hoptional := h.fields.2
  rw [Fields.sortOrder, Fields.optional] at hoptional
  rw [Record.sortKey]
  rw [Fields.get] at horder ⊢
  -- Without an order number the part stands at zero, and so does the record.
  cases hfound : Fields.get? r "sort_order" with
  | none =>
      simp only [hfound] at hoptional
      have hzero : k.sortOrder a = 0 := (Check.fits.inj hoptional).symm
      rw [place, hzero]
      exact Value.whole?_int 0
  | some v =>
      simp only [hfound] at hoptional
      rw [hfound] at horder
      exact Value.whole?_orElse (Value.whole?_of_read (Check.fits_of_inside hoptional) horder)

end PartKind

namespace FormTables.IsKeyed

variable {α : Type} {k : PartKind α} {names : List String} {table : List Value} {r : Record} {a : α}

/-- A part has the id of its record. -/
theorem id_eq (h : IsKeyed names table) (hr : r ∈ records table) (ha : k.Reads r a) :
    r.number? "id" = some (k.id a) := by
  obtain ⟨n, hn⟩ := h.number hr (List.mem_cons_self ..)
  rw [ha.id_eq hn, hn]

/-- No record of a keyed table has its place given by texts. -/
theorem isSpelled_eq (h : IsKeyed names table) (hr : r ∈ records table) : r.isSpelled = false := by
  obtain ⟨hnames, horder⟩ := h.isKeyed hr
  have hnumber {name : String} (hname : (r.number? name).isSome = true) :
      (Fields.get r name).isSpelled = false := by
    obtain ⟨n, hn⟩ := Option.isSome_iff_exists.mp hname
    rw [Record.number?_eq_some_iff.mp hn]
    rfl
  rw [Record.isSpelled, hnumber (hnames _ (List.mem_cons_self ..)), Bool.or_false]
  -- The order number may be absent, the id may not.
  obtain hnull | hsome := horder
  · rw [hnull]
    rfl
  · exact hnumber hsome

/-- A part has the place of its record. -/
theorem place_eq (h : IsKeyed names table) (hr : r ∈ records table) (ha : k.Reads r a) :
    r.place = k.place a := by
  rw [← (h.placed hr).standsAt.worth_eq, (ha.standsAt (h.isSpelled_eq hr)).worth_eq]

end FormTables.IsKeyed

end FormPress
