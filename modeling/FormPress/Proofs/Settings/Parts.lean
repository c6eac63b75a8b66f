/-
  FormPress.Proofs.Settings.Parts

  The settings as four records of fields that may be absent.  A record knows its
  fields, with their readings and standard values (`SettingsPart`): it is read by
  reading each of them, and any values of its fields make one.  So the settings
  that fields give hold in every field what is read there, else the standard
  value (`Settings.read_iff`).
-/
import FormPress.Proofs.Record.Fields
import FormPress.Settings.Environment

namespace FormPress

/-! ## Fields of records -/

/-- A field of a record: its name, how its value is read, and where it stands in the record. -/
structure RecordField (α : Type) where
  type : Type
  name : String
  read : Value → Check type
  get : α → type

namespace RecordField

variable {α : Type} (x : RecordField α) (standard : α)

/-- What a field holds: what is read of the value that is given, else what it holds in the standard
    record. -/
def chosen (given : Option Value) : Check x.type :=
  match given with
  | some v => x.read v
  | none => .fits (x.get standard)

/-- An optional field is read as what it holds of the value under its name. -/
theorem optional_iff {fields : Fields} {a : x.type} :
    fields.optional x.name x.read (x.get standard) = .fits a ↔
      x.chosen standard (Fields.get? fields x.name) = .fits a := by
  rw [Fields.optional]
  cases Fields.get? fields x.name with
  | none => exact Iff.rfl
  | some v => exact Check.fits_inside_iff

end RecordField

/-! ## Sections of the settings -/

/-- A section of the settings: its name and its fields, which of them are lists, and how it is read
    and found in the settings. -/
structure SettingsPart where
  Part : Type
  name : String
  fields : List (RecordField Part)
  lists : List String
  standard : Part
  read : Fields → Check Part
  get : Settings → Part
  /-- it is read by reading each field -/
  read_iff : ∀ given p, read given = .fits p ↔
    ∀ x ∈ fields, given.optional x.name x.read (x.get standard) = .fits (x.get p)
  /-- any values of the fields make a record -/
  made : ∀ holds : (x : RecordField Part) → x.type → Prop,
    (∀ x ∈ fields, ∃ a, holds x a) → ∃ p, ∀ x ∈ fields, holds x (x.get p)

namespace SettingsPart

/-- The names of a section and its fields. -/
def names (part : SettingsPart) : SectionNames :=
  ⟨part.name, part.fields.map (·.name), part.lists⟩

/-- Whether a record holds in every field what is read of the value given under its name. -/
def Holds (part : SettingsPart) (given : String → Option Value) (p : part.Part) : Prop :=
  ∀ x ∈ part.fields, x.chosen part.standard (given x.name) = .fits (x.get p)

/-- A record is read as the one that holds what its fields give. -/
theorem read_iff_holds {part : SettingsPart} {fields : Fields} {p : part.Part} :
    part.read fields = .fits p ↔ part.Holds (Fields.get? fields) p := by
  rw [part.read_iff]
  exact forall₂_congr fun x _ => x.optional_iff part.standard

/-- A record is read where every field is. -/
theorem exists_holds {part : SettingsPart} {given : String → Option Value}
    (h : ∀ x ∈ part.fields, ∃ a, x.chosen part.standard (given x.name) = .fits a) :
    ∃ p, part.Holds given p :=
  part.made (fun x a => x.chosen part.standard (given x.name) = .fits a) h

end SettingsPart

/-- What fits may be given in another form. -/
theorem Check.eq_fits_iff {α : Type} {x : Check α} {a : α} :
    x = .fits a ↔ ∃ b, x = .fits b ∧ b = a :=
  ⟨fun h => ⟨a, h, rfl⟩, fun ⟨_, hb, h⟩ => h ▸ hb⟩

/-- The settings of the browser. -/
def browserPart : SettingsPart where
  Part := BrowserSettings
  name := "pdf_backend"
  fields := [⟨_, "engine", Read.text, (·.engine)⟩, ⟨_, "browser", Read.text, (·.browser)⟩,
    ⟨_, "wait_until", Read.text, (·.waitUntil)⟩, ⟨_, "timeout_ms", Read.whole, (·.timeoutMs)⟩]
  lists := []
  standard := {}
  read := BrowserSettings.read
  get := (·.browser)
  read_iff given p := by
    rw [Check.eq_fits_iff]
    simp only [BrowserSettings.read, Check.exists_seq, Check.exists_map, List.forall_mem_cons]
    constructor
    · rintro ⟨_, h₁, _, h₂, _, h₃, _, h₄, rfl⟩
      exact ⟨h₁, h₂, h₃, h₄, nofun⟩
    · rintro ⟨h₁, h₂, h₃, h₄, -⟩
      exact ⟨_, h₁, _, h₂, _, h₃, _, h₄, rfl⟩
  made holds := by
    simp only [List.forall_mem_cons]
    rintro ⟨⟨a₁, h₁⟩, ⟨a₂, h₂⟩, ⟨a₃, h₃⟩, ⟨a₄, h₄⟩, -⟩
    exact ⟨⟨a₁, a₂, a₃, a₄⟩, h₁, h₂, h₃, h₄, nofun⟩

/-- Paper and margins. -/
def pagePart : SettingsPart where
  Part := PageSettings
  name := "page_layout"
  fields := [⟨_, "paper_format", Read.text, (·.paperFormat)⟩,
    ⟨_, "body_margin_top", Read.text, (·.bodyTop)⟩,
    ⟨_, "body_margin_right", Read.text, (·.bodyRight)⟩,
    ⟨_, "body_margin_bottom", Read.text, (·.bodyBottom)⟩,
    ⟨_, "body_margin_left", Read.text, (·.bodyLeft)⟩,
    ⟨_, "cover_margin", Read.text, (·.coverMargin)⟩]
  lists := []
  standard := {}
  read := PageSettings.read
  get := (·.page)
  read_iff given p := by
    rw [Check.eq_fits_iff]
    simp only [PageSettings.read, Check.exists_seq, Check.exists_map, List.forall_mem_cons]
    constructor
    · rintro ⟨_, h₁, _, h₂, _, h₃, _, h₄, _, h₅, _, h₆, rfl⟩
      exact ⟨h₁, h₂, h₃, h₄, h₅, h₆, nofun⟩
    · rintro ⟨h₁, h₂, h₃, h₄, h₅, h₆, -⟩
      exact ⟨_, h₁, _, h₂, _, h₃, _, h₄, _, h₅, _, h₆, rfl⟩
  made holds := by
    simp only [List.forall_mem_cons]
    rintro ⟨⟨a₁, h₁⟩, ⟨a₂, h₂⟩, ⟨a₃, h₃⟩, ⟨a₄, h₄⟩, ⟨a₅, h₅⟩, ⟨a₆, h₆⟩, -⟩
    exact ⟨⟨a₁, a₂, a₃, a₄, a₅, a₆⟩, h₁, h₂, h₃, h₄, h₅, h₆, nofun⟩

/-- Where logos are found. -/
def assetPart : SettingsPart where
  Part := AssetSettings
  name := "assets"
  fields := [⟨_, "assets_dir", Read.path, (·.folder)⟩,
    ⟨_, "crest_candidates", Read.texts, (·.crestNames)⟩, ⟨_, "text_logo", Read.text, (·.textLogo)⟩]
  lists := ["crest_candidates"]
  standard := {}
  read := AssetSettings.read
  get := (·.assets)
  read_iff given p := by
    rw [Check.eq_fits_iff]
    simp only [AssetSettings.read, Check.exists_seq, Check.exists_map, List.forall_mem_cons]
    constructor
    · rintro ⟨_, h₁, _, h₂, _, h₃, rfl⟩
      exact ⟨h₁, h₂, h₃, nofun⟩
    · rintro ⟨h₁, h₂, h₃, -⟩
      exact ⟨_, h₁, _, h₂, _, h₃, rfl⟩
  made holds := by
    simp only [List.forall_mem_cons]
    rintro ⟨⟨a₁, h₁⟩, ⟨a₂, h₂⟩, ⟨a₃, h₃⟩, -⟩
    exact ⟨⟨a₁, a₂, a₃⟩, h₁, h₂, h₃, nofun⟩

/-- What is noted. -/
def logPart : SettingsPart where
  Part := LogSettings
  name := "logging"
  fields := [⟨_, "log_level", Read.text, (·.level)⟩, ⟨_, "log_format", Read.text, (·.format)⟩]
  lists := []
  standard := {}
  read := LogSettings.read
  get := (·.log)
  read_iff given p := by
    rw [Check.eq_fits_iff]
    simp only [LogSettings.read, Check.exists_seq, Check.exists_map, List.forall_mem_cons]
    constructor
    · rintro ⟨_, h₁, _, h₂, rfl⟩
      exact ⟨h₁, h₂, nofun⟩
    · rintro ⟨h₁, h₂, -⟩
      exact ⟨_, h₁, _, h₂, rfl⟩
  made holds := by
    simp only [List.forall_mem_cons]
    rintro ⟨⟨a₁, h₁⟩, ⟨a₂, h₂⟩, -⟩
    exact ⟨⟨a₁, a₂⟩, h₁, h₂, nofun⟩

/-- The sections of the settings. -/
def settingsParts : List SettingsPart := [browserPart, pagePart, assetPart, logPart]

/-- Any values of the sections make settings. -/
theorem settings_made {holds : (part : SettingsPart) → part.Part → Prop}
    (h : ∀ part ∈ settingsParts, ∃ p, holds part p) (profile : Option Path) :
    ∃ s : Settings, s.profilePath = profile ∧ ∀ part ∈ settingsParts, holds part (part.get s) := by
  simp only [settingsParts, List.forall_mem_cons] at h ⊢
  obtain ⟨⟨browser, hbrowser⟩, ⟨page, hpage⟩, ⟨assets, hassets⟩, ⟨log, hlog⟩, -⟩ := h
  exact ⟨⟨profile, browser, page, assets, log⟩, rfl, hbrowser, hpage, hassets, hlog, nofun⟩

/-- The sections have the names by which variables are read. -/
theorem names_settingsParts : settingsParts.map SettingsPart.names = settingSections := rfl

namespace Settings

/-- Settings are read where the profile and every section are and nothing else is given. -/
theorem read_iff {fields : Fields} {s : Settings} :
    read fields = .fits s ↔
      fields.optional "profile_path" (Read.nullable Read.path) none = .fits s.profilePath ∧
      (∀ part ∈ settingsParts,
        fields.optional part.name (Read.record part.read) part.standard = .fits (part.get s)) ∧
      strangers fields = .fits () := by
  rw [Check.eq_fits_iff]
  simp only [read, Check.exists_seq, Check.exists_map, settingsParts, List.forall_mem_cons]
  constructor
  · rintro ⟨_, hprofile, _, hbrowser, _, hpage, _, hassets, _, hlog, ⟨⟩, hnone, rfl⟩
    exact ⟨hprofile, ⟨hbrowser, hpage, hassets, hlog, nofun⟩, hnone⟩
  · rintro ⟨hprofile, ⟨hbrowser, hpage, hassets, hlog, -⟩, hnone⟩
    exact ⟨_, hprofile, _, hbrowser, _, hpage, _, hassets, _, hlog, _, hnone, rfl⟩

end Settings

end FormPress
