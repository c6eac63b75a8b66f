/-
  FormPress.Proofs.Settings.Layers

  Where settings come from.  A file decides on all of them, with what is given in
  it and with standard values for the rest, whatever variables there are; where
  the file is missing, the variables decide (`Settings.ofFile_layers`).  So a
  variable that is meant to count over the file is not seen
  (`Settings.variable_hidden_by_file`).
-/
import FormPress.Proofs.Files.Writing
import FormPress.Proofs.Settings.Parts
import FormPress.Proofs.Settings.Variables
import FormPress.Proofs.Tables.Reading
import FormPress.Settings.File
import Mathlib.Data.List.Nodup

namespace FormPress

/-- A check succeeds with what fits. -/
theorem Check.orFail_eq_ok_iff {α : Type} {kind : RecordKind} {x : Check α} {a : α} :
    x.orFail kind = .ok a ↔ x = .fits a := by
  cases x with
  | fits b => exact ⟨fun h => congrArg fits (Except.ok.inj h), fun h => congrArg _ (fits.inj h)⟩
  | faults fs => exact ⟨nofun, nofun⟩

/-! ## Names of parts and fields -/

theorem names_mem {part : SettingsPart} (h : part ∈ settingsParts) : part.names ∈ settingSections :=
  names_settingsParts ▸ List.mem_map_of_mem h

/-- No two sections of the settings have one name. -/
theorem part_eq_of_name {part other : SettingsPart} (hpart : part ∈ settingsParts)
    (hother : other ∈ settingsParts) (h : part.name = other.name) : part = other := by
  have hnodup : (settingsParts.map (·.name)).Nodup := by decide
  exact List.inj_on_of_nodup_map hnodup hpart hother h

/-- No two fields of a section have one name. -/
theorem field_eq_of_name {part : SettingsPart} (hpart : part ∈ settingsParts)
    {x y : RecordField part.Part} (hx : x ∈ part.fields) (hy : y ∈ part.fields)
    (h : x.name = y.name) : x = y := by
  have hnodup : ∀ part ∈ settingsParts, (part.fields.map (·.name)).Nodup := by decide
  exact List.inj_on_of_nodup_map (hnodup part hpart) hx hy h

theorem name_mem_fields {part : SettingsPart} {x : RecordField part.Part} (hx : x ∈ part.fields) :
    x.name ∈ part.names.fields :=
  List.mem_map_of_mem (f := (·.name)) hx

/-! ## Variables alone -/

namespace Environment

/-- Every variable gives a field of the settings a value that fits it, or has nothing to do with
    them. -/
def Fits (env : Environment) : Prop :=
  ∀ v ∈ env, isForeign v = true ∨ ∃ part ∈ settingsParts, ∃ x ∈ part.fields, ∃ given a,
    SetsField v part.names x.name given ∧ x.read given = .fits a

variable {env : Environment}

/-- Values that fit can be read. -/
theorem Fits.isReadable (h : env.Fits) : env.IsReadable := by
  intro v hv
  rcases h v hv with hforeign | ⟨part, hpart, x, hx, given, -, hsets, -⟩
  · exact .inl hforeign
  · exact .inr ⟨part.names, names_mem hpart, x.name, name_mem_fields hx, given, hsets⟩

/-- The value that the variables give a field fits it. -/
theorem Fits.exists_read (h : env.Fits) {part : SettingsPart} (hpart : part ∈ settingsParts)
    {x : RecordField part.Part} (hx : x ∈ part.fields) {given : Value}
    (hgiven : env.fieldValue? part.names x.name = some given) : ∃ a, x.read given = .fits a := by
  obtain ⟨text, htext, hvalue⟩ := Option.bind_eq_some_iff.mp hgiven
  obtain ⟨v, hmem, hname, rfl⟩ := mem_of_find? htext
  rcases h v hmem with hforeign | ⟨other, hother, y, hy, w, a, hsets, hread⟩
  · have hasked := variable_asked (names_mem hpart) (name_mem_fields hx)
    exact absurd hname (ne_of_isForeign hforeign hasked)
  · -- The value fits the field that its variable sets, and the name says that it is this one.
    obtain ⟨hnames, hfield⟩ := hsets.eq_of_names (names_mem hother) (name_mem_fields hy)
      (names_mem hpart) (name_mem_fields hx) hname
    obtain rfl := part_eq_of_name hother hpart (congrArg SectionNames.name hnames)
    obtain rfl := field_eq_of_name hother hy hx hfield
    rw [hsets.gives] at hvalue
    obtain rfl : w = given := Option.some.inj hvalue
    exact ⟨a, hread⟩

end Environment

namespace Settings

/-- Settings that hold in every field the value of its variable, else the standard one. -/
structure FromVariables (env : Environment) (s : Settings) : Prop where
  profile : s.profilePath = none
  parts : ∀ part ∈ settingsParts, part.Holds (env.fieldValue? part.names) (part.get s)

/-- Sections under their names are nothing strange. -/
theorem strangers_of_known {fields : Fields}
    (h : ∀ key ∈ fields.map Prod.fst, ∃ s ∈ settingSections, key = .text s.name) :
    strangers fields = .fits () := by
  have hnames : ∀ s ∈ settingSections, fieldNames.any (fun name =>
      (Scalar.text name).same (.text s.name)) = true := by
    decide
  have hnone : (fields.filter fun p => !fieldNames.any fun name => (Scalar.text name).same p.1) =
      [] := by
    rw [List.filter_eq_nil_iff]
    intro p hp
    obtain ⟨s, hs, hkey⟩ := h p.1 (List.mem_map_of_mem hp)
    rw [hkey, hnames s hs]
    exact Bool.false_ne_true
  rw [strangers, hnone]
  rfl

/-- A section that is given as an object, unless nothing is, is read as the record that holds what
    is given. -/
theorem optional_part {part : SettingsPart} {fields given : Fields} {p : part.Part}
    (hgiven : Fields.get? fields part.name = if given.isEmpty then none else some (.object given))
    (hp : part.Holds (Fields.get? given) p) :
    fields.optional part.name (Read.record part.read) part.standard = .fits p := by
  have hread : part.read given = .fits p := part.read_iff_holds.mpr hp
  rw [Fields.optional, hgiven]
  cases given with
  | nil =>
      -- Of no fields the standard record is read.
      have hstandard : part.read [] = .fits part.standard :=
        part.read_iff_holds.mpr fun x _ => rfl
      exact hstandard.symm.trans hread
  | cons f rest => exact Check.fits_inside_iff.mpr hread

/-- Fields that the variables give are read as the settings that hold what the variables give. -/
theorem read_of_given {env : Environment} {fields : Fields} {s : Settings}
    (hgiven : env.GivesSections settingSections fields) (hs : FromVariables env s) :
    read fields = .fits s := by
  refine read_iff.mpr ⟨?_, ?_, strangers_of_known hgiven.known⟩
  · have hnone : Fields.get? fields "profile_path" = none := by
      rw [Fields.get?_eq_none_iff]
      intro hkey
      obtain ⟨t, ht, hname⟩ := hgiven.known _ hkey
      have hother : ∀ t ∈ settingSections, "profile_path" ≠ t.name := by decide
      exact hother t ht (Scalar.text.inj hname)
    rw [Fields.optional, hnone, hs.profile]
  · intro part hpart
    obtain ⟨given, hvalue, hvalues⟩ := hgiven.each part.names (names_mem hpart)
    apply optional_part hvalue
    intro x hx
    rw [hvalues x.name (name_mem_fields hx)]
    exact hs.parts part hpart x hx

/-- Without a file the variables decide on the settings. -/
theorem exists_fromVariables {env : Environment} (h : env.Fits) :
    ∃ s, ofFields env [] = .ok s ∧ FromVariables env s := by
  obtain ⟨fields, hfields, hgiven⟩ := h.isReadable.fields
  -- Every section has a record of what its variables give, since each of their values fits.
  have hheld : ∀ part ∈ settingsParts, ∃ p, part.Holds (env.fieldValue? part.names) p := by
    intro part hpart
    apply part.exists_holds
    intro x hx
    cases hvalue : env.fieldValue? part.names x.name with
    | none => exact ⟨_, rfl⟩
    | some given => exact h.exists_read hpart hx hvalue
  obtain ⟨s, hprofile, hparts⟩ := settings_made hheld none
  have hs : FromVariables env s := ⟨hprofile, hparts⟩
  refine ⟨s, ?_, hs⟩
  -- No arguments stand over the variables.
  show (do
    let fields ← Environment.fields usualStyle env
    (read fields).orFail .settings) = _
  rw [hfields, ok_bind]
  exact Check.orFail_eq_ok_iff.mpr (read_of_given hgiven hs)

/-! ## Files alone -/

/-- Settings with their paths seen from a folder. -/
def resolved (base folder : Path) (s : Settings) : Except Failure Settings := do
  let assetFolder ← seenFrom base folder s.assets.folder
  let profile ← s.profilePath.mapM (seenFrom base folder)
  return { s with profilePath := profile, assets := { s.assets with folder := assetFolder } }

/-- What the value of an entry gives: of an object its default, if it has one, anything else
    itself. -/
def entryGives : Value → Option Value
  | .object inner => Fields.get? inner "default"
  | v => some v

/-- What the entries of a section give for a field: what the first one under its name gives that gives
    anything. -/
def sectionGives (entries : Fields) (name : String) : Option Value :=
  entries.findSome? fun e => if e.1.sameKey (.text name) then entryGives e.2 else none

/-- The entries of a section: none if it is missing or does not count as given. -/
def SectionEntries (options : Fields) (name : String) (entries : Fields) : Prop :=
  match Fields.get? options name with
  | none => entries = []
  | some v => if v.truthy then v = .object entries else entries = []

/-- Everything that some entries give is given under a name. -/
def GivesByName (entries : Fields) : Prop :=
  ∀ e ∈ entries, (entryGives e.2).isSome → ∃ name, e.1 = .text name

/-- The profile that a value gives: none if it does not count as given, else at the path that it
    is. -/
def GivesProfile (v : Value) (profile : Option Path) : Prop :=
  if v.truthy then ∃ path, v = .text path ∧ profile = some (.ofText path) else profile = none

/-- A record that holds in every field what its section of the options gives for it, plainly or as
    its default, else the standard value. -/
def GivesPart (options : Fields) (part : SettingsPart) (p : part.Part) : Prop :=
  ∃ entries, SectionEntries options part.name entries ∧ GivesByName entries ∧
    part.Holds (sectionGives entries) p

/-- Settings that hold in every section what the options of a file give for it, and the profile that
    the file gives. -/
structure FromFile (all : Fields) (s : Settings) : Prop where
  profile : GivesProfile (Fields.get all "profile_path") s.profilePath
  parts : ∃ options, (Fields.get? all "runtime_options").getD (.object []) = .object options ∧
    ∀ part ∈ settingsParts, GivesPart options part (part.get s)

/-- The profile of a file is the one that its value gives. -/
theorem filedProfile_eq_ok_iff {v : Value} {profile : Option Path} :
    filedProfile v = .ok profile ↔ GivesProfile v profile := by
  unfold filedProfile
  rw [GivesProfile]
  -- What does not count as given is no profile, whatever it is; anything else has to be a text.
  by_cases hgiven : v.truthy = true
  · rw [if_neg (by rw [hgiven]; decide), if_pos hgiven]
    constructor
    · intro h
      split at h
      · exact ⟨_, rfl, (Except.ok.inj h).symm⟩
      · cases h
    · rintro ⟨path, rfl, rfl⟩
      rfl
  · rw [if_pos (by rw [Bool.not_eq_true] at hgiven; rw [hgiven]; rfl), if_neg hgiven]
    exact ⟨fun h => (Except.ok.inj h).symm, fun h => congrArg _ h.symm⟩

/-- The plain values of a section are what its entries give, under the same keys. -/
theorem plainFields_eq (entries : Fields) :
    plainFields entries = entries.filterMap fun e => (entryGives e.2).map fun v => (e.1, v) := by
  induction entries with
  | nil => rfl
  | cons e rest ih =>
      obtain ⟨k, v⟩ := e
      rw [List.filterMap_cons]
      cases v with
      | object inner =>
          simp only [plainFields, entryGives]
          cases Fields.get? inner "default" with
          | none => exact ih
          | some v => exact congrArg _ ih
      | scalar | list | pair | set => exact congrArg _ ih

/-- A look-up in the plain values finds what the section gives. -/
theorem get?_plainFields (entries : Fields) (name : String) :
    Fields.get? (plainFields entries) name = sectionGives entries name := by
  rw [plainFields_eq, sectionGives]
  -- An entry that gives nothing is in none of the two lists, so a later one of its name counts.
  induction entries with
  | nil => rfl
  | cons e rest ih =>
      rw [List.filterMap_cons, List.findSome?_cons]
      cases hgives : entryGives e.2 with
      | none => simpa using ih
      | some v =>
          rw [Option.map_some, Fields.get?_cons, ih]
          by_cases hkey : e.1.sameKey (.text name) = true
          · rw [if_pos hkey, if_pos hkey]
          · rw [if_neg hkey, if_neg hkey]

/-- Fields are named where every key is a text. -/
theorem named_eq_ok_iff {fields named : Fields} :
    Fields.named fields = .ok named ↔
      (∀ f ∈ fields, ∃ name, f.1 = .text name) ∧ named = fields := by
  unfold Fields.named
  split
  next hall =>
    rw [List.all_eq_true] at hall
    refine ⟨fun h => ⟨fun f hf => ?_, (Except.ok.inj h).symm⟩, fun h => congrArg _ h.2.symm⟩
    have hkey := hall f hf
    cases hk : f.1 <;> rw [hk] at hkey
    case text name => exact ⟨name, rfl⟩
    all_goals cases hkey
  next hsome =>
    constructor
    · intro h
      cases h
    · rintro ⟨h, -⟩
      refine absurd (List.all_eq_true.mpr fun f hf => ?_) hsome
      obtain ⟨name, hname⟩ := h f hf
      rw [hname]

/-- The plain values are named where everything is given by name. -/
theorem named_plainFields_iff {entries fields : Fields} :
    Fields.named (plainFields entries) = .ok fields ↔
      GivesByName entries ∧ fields = plainFields entries := by
  rw [named_eq_ok_iff, plainFields_eq]
  refine and_congr_left fun _ => ?_
  simp only [List.mem_filterMap, Option.map_eq_some_iff]
  constructor
  · intro h e he hgives
    obtain ⟨v, hv⟩ := Option.isSome_iff_exists.mp hgives
    exact h (e.1, v) ⟨e, he, v, hv, rfl⟩
  · rintro h f ⟨e, he, v, hv, rfl⟩
    exact h e he (hv ▸ rfl)

/-- The items of a section that counts as given are those of an object. -/
theorem sectionEntries_iff {options entries : Fields} {name : String} :
    Value.partsFor "items" ((Fields.get options name).orElse (.object [])) = .ok entries ↔
      SectionEntries options name entries := by
  have hempty : Value.partsFor "items" (.object []) = .ok entries ↔ entries = [] :=
    ⟨fun h => (Except.ok.inj h).symm, fun h => congrArg _ h.symm⟩
  rw [SectionEntries, Fields.get]
  cases Fields.get? options name with
  | none => exact hempty
  | some v =>
      show _ ↔ if v.truthy = true then v = .object entries else entries = []
      rw [Option.getD_some, Value.orElse]
      by_cases hgiven : v.truthy = true
      · rw [if_pos hgiven, if_pos hgiven]
        cases v with
        | object fields =>
            exact ⟨fun h => congrArg _ (Except.ok.inj h), fun h => congrArg _ (Value.object.inj h)⟩
        | scalar | list | pair | set => constructor <;> intro h <;> cases h
      · rw [if_neg hgiven, if_neg hgiven]
        exact hempty

/-- The options of a section are the plain values of its entries. -/
theorem optionFields_eq_ok_iff {options fields : Fields} {name : String} :
    optionFields (.object options) name = .ok fields ↔
      ∃ entries, SectionEntries options name entries ∧ GivesByName entries ∧
        fields = plainFields entries := by
  have hall : Value.partsFor "get" (.object options) = .ok options := rfl
  rw [optionFields, hall, ok_bind]
  simp only [bind_eq_ok_iff, sectionEntries_iff, named_plainFields_iff]

/-- A section is read as the record that holds what it gives. -/
theorem readSection_eq_ok_iff (part : SettingsPart) {options : Fields} {kind : RecordKind}
    {p : part.Part} :
    readSection (.object options) part.name kind part.read = .ok p ↔ GivesPart options part p := by
  simp only [readSection, bind_eq_ok_iff, Check.orFail_eq_ok_iff, part.read_iff_holds,
    optionFields_eq_ok_iff]
  constructor
  · rintro ⟨fields, ⟨entries, hentries, hnamed, rfl⟩, hp⟩
    exact ⟨entries, hentries, hnamed, fun x hx => get?_plainFields entries x.name ▸ hp x hx⟩
  · rintro ⟨entries, hentries, hnamed, hp⟩
    exact ⟨_, ⟨entries, hentries, hnamed, rfl⟩,
      fun x hx => (get?_plainFields entries x.name).symm ▸ hp x hx⟩

/-- Options of which a section is read are an object. -/
theorem object_of_readSection {α : Type} {options : Value} {name : String} {kind : RecordKind}
    {read : Fields → Check α} {a : α} (h : readSection options name kind read = .ok a) :
    ∃ all, options = .object all := by
  cases options with
  | object all => exact ⟨all, rfl⟩
  | scalar | list | pair | set => cases h

/-- The sections of a file are read one after the other. -/
theorem parts_iff {options : Value} {s : Settings} :
    (∃ all, options = .object all ∧ ∀ part ∈ settingsParts, GivesPart all part (part.get s)) ↔
      readSection options "pdf_backend" .browserSettings BrowserSettings.read = .ok s.browser ∧
        readSection options "page_layout" .pageSettings PageSettings.read = .ok s.page ∧
        readSection options "assets" .assetSettings AssetSettings.read = .ok s.assets ∧
        readSection options "logging" .logSettings LogSettings.read = .ok s.log := by
  simp only [settingsParts, List.forall_mem_cons]
  constructor
  · rintro ⟨all, rfl, hbrowser, hpage, hassets, hlog, -⟩
    exact ⟨(readSection_eq_ok_iff browserPart).mpr hbrowser,
      (readSection_eq_ok_iff pagePart).mpr hpage, (readSection_eq_ok_iff assetPart).mpr hassets,
      (readSection_eq_ok_iff logPart).mpr hlog⟩
  · rintro ⟨hbrowser, hpage, hassets, hlog⟩
    obtain ⟨all, rfl⟩ := object_of_readSection hbrowser
    exact ⟨all, rfl, (readSection_eq_ok_iff browserPart).mp hbrowser,
      (readSection_eq_ok_iff pagePart).mp hpage, (readSection_eq_ok_iff assetPart).mp hassets,
      (readSection_eq_ok_iff logPart).mp hlog, nofun⟩

/-- The settings of a file are those that it gives, with their paths seen from its folder. -/
theorem ofValue_eq_ok_iff {base folder : Path} {v : Value} {s : Settings} :
    ofValue base [] folder v = .ok s ↔
      ∃ all written, v = .object all ∧ FromFile all written ∧
        written.resolved base folder = .ok s := by
  have hfields : Environment.fields usualStyle [] = .ok [] := rfl
  have hprofile : Environment.profilePath? usualStyle [] = none := rfl
  have hobject : ∀ all, v.partsFor "get" = .ok all ↔ v = .object all := by
    intro all
    cases v with
    | object fields =>
        exact ⟨fun h => congrArg _ (Except.ok.inj h), fun h => congrArg _ (Value.object.inj h)⟩
    | scalar | list | pair | set => constructor <;> intro h <;> cases h
  simp only [ofValue, hfields, hprofile, Option.map_none, Option.orElse_eq_orElse,
    Option.orElse_eq_or, Option.or_none, bind_eq_ok_iff, pure_eq_ok_iff, resolved, hobject,
    filedProfile_eq_ok_iff]
  constructor
  · rintro ⟨all, hall, browser, hbrowser, page, hpage, assets, hassets, log, hlog, -, -, filed,
      hfiled, hresolved⟩
    exact ⟨all, ⟨filed, browser, page, assets, log⟩, hall,
      ⟨hfiled, parts_iff.mpr ⟨hbrowser, hpage, hassets, hlog⟩⟩, hresolved⟩
  · rintro ⟨all, written, hall, ⟨hfiled, hparts⟩, hresolved⟩
    obtain ⟨hbrowser, hpage, hassets, hlog⟩ := parts_iff.mp hparts
    exact ⟨all, hall, _, hbrowser, _, hpage, _, hassets, _, hlog, _, rfl, _, hfiled, hresolved⟩

/-- Variables that fit the settings change nothing in those of a file. -/
theorem ofValue_eq {env : Environment} (h : env.Fits) (base folder : Path) (v : Value) :
    ofValue base env folder v = ofValue base [] folder v := by
  obtain ⟨fields, hfields, -⟩ := h.isReadable.fields
  have hprofile : env.profilePath? usualStyle = none := h.isReadable.profilePath?
  have hfields' : Environment.fields usualStyle [] = .ok [] := rfl
  have hprofile' : Environment.profilePath? usualStyle [] = none := rfl
  simp only [ofValue, hfields, hprofile, hfields', hprofile', ok_bind]

/-! ## Files and variables -/

/-- The settings are those of the file, whatever fitting variables there are, and where the file is
    missing those of the variables.  A file gives settings that hold in every field what is given
    for it in the file, else the standard value, with the paths seen from its folder; variables
    always give settings, which hold in every field the value of its last variable, else the
    standard value. -/
theorem ofFile_layers (files : Files) (env : Environment) (path : Path) (henv : env.Fits) :
    match files.holds path with
    | .error e => ofFile files env path = .error e
    | .ok true => ofFile files env path = ofFile files [] path ∧
        ∀ s, ofFile files env path = .ok s ↔
          ∃ all written, files.readYaml path = .ok (.object all) ∧ FromFile all written ∧
            written.resolved files.base path.parent = .ok s
    | .ok false => ∃ s, ofFile files env path = .ok s ∧ FromVariables env s := by
  cases hholds : files.holds path with
  | error e =>
      show ofFile files env path = .error e
      rw [ofFile, hholds]
      rfl
  | ok there =>
      -- Either the file is read and the variables are passed along, or they are all there is.
      have hfile : ∀ env, ofFile files env path =
          if there then do ofValue files.base env path.parent (← files.readYaml path)
          else ofFields env [] := by
        intro env
        rw [ofFile, hholds, ok_bind]
      cases there with
      | false =>
          obtain ⟨s, hs, hvariables⟩ := exists_fromVariables henv
          exact ⟨s, (hfile env).trans hs, hvariables⟩
      | true =>
          have hsame : ofFile files env path = ofFile files [] path := by
            rw [hfile, hfile, if_pos rfl, if_pos rfl]
            simp only [ofValue_eq henv]
          refine ⟨hsame, fun s => ?_⟩
          rw [hsame, hfile, if_pos rfl]
          simp only [bind_eq_ok_iff, ofValue_eq_ok_iff]
          constructor
          · rintro ⟨v, hv, all, written, rfl, hwritten, hs⟩
            exact ⟨all, written, hv, hwritten, hs⟩
          · rintro ⟨all, written, hv, hwritten, hs⟩
            exact ⟨_, hv, all, written, rfl, hwritten, hs⟩

/-- Files with an empty file of settings. -/
def emptySettingsFile : Files := ⟨⟨1, []⟩, [(["settings.yaml"], .ofText "")]⟩

/-- Variables of which one chooses a browser. -/
def browserVariables : Environment :=
  [("PATH", "/usr/bin"), ("FORMDOC_PDF_BACKEND__BROWSER", "firefox")]

theorem browserVariables_fit : browserVariables.Fits := by
  intro v hv
  rcases List.mem_cons.mp hv with rfl | hv
  · exact .inl (by decide +kernel)
  · obtain rfl := List.mem_singleton.mp hv
    refine .inr ⟨browserPart, List.mem_cons_self .., _,
      List.mem_cons_of_mem _ (List.mem_cons_self ..), .text "firefox", "firefox", ⟨?_, rfl⟩, rfl⟩
    decide +kernel

/-- Files with settings that give one field plainly, one as a default, and none for a third that they
    describe. -/
def describedSettingsFile : Files :=
  ⟨⟨1, []⟩, [(["settings.yaml"], .ofText (
    "runtime_options: \x7bpdf_backend: \x7bbrowser: webkit, " ++
    "wait_until: \x7bdefault: load\x7d, timeout_ms: \x7bmin: 1\x7d\x7d\x7d"))]⟩

/-- Where there is a file, it chooses the browser and what it waits for; where there is none, the
    variable chooses the browser. -/
theorem ofFile_with_and_without_file :
    browserVariables.Fits ∧
    (∃ s, ofFile describedSettingsFile browserVariables (.ofText "settings.yaml") = .ok s ∧
      (∃ all written, describedSettingsFile.readYaml (.ofText "settings.yaml") = .ok (.object all) ∧
        FromFile all written ∧ written.resolved describedSettingsFile.base ⟨0, []⟩ = .ok s) ∧
      s.browser = { browser := "webkit", waitUntil := "load" }) ∧
    ∃ s, ofFile describedSettingsFile browserVariables (.ofText "none.yaml") = .ok s ∧
      FromVariables browserVariables s ∧ s.browser = { browser := "firefox" } := by
  have hthere : describedSettingsFile.holds (.ofText "settings.yaml") = .ok true := rfl
  have hmissing : describedSettingsFile.holds (.ofText "none.yaml") = .ok false := rfl
  have hfile := ofFile_layers describedSettingsFile browserVariables (.ofText "settings.yaml")
    browserVariables_fit
  have hvariables := ofFile_layers describedSettingsFile browserVariables (.ofText "none.yaml")
    browserVariables_fit
  rw [hthere] at hfile
  rw [hmissing] at hvariables
  have hchosen : (ofFile describedSettingsFile browserVariables (.ofText "settings.yaml")).toOption.map
      (·.browser) = some { browser := "webkit", waitUntil := "load" } ∧
    (ofFile describedSettingsFile browserVariables (.ofText "none.yaml")).toOption.map
      (·.browser) = some { browser := "firefox" } := by
    decide +kernel
  refine ⟨browserVariables_fit, ?_, ?_⟩
  · obtain ⟨s, hs, hbrowser⟩ := Option.map_eq_some_iff.mp hchosen.1
    rw [toOption_eq_some_iff] at hs
    exact ⟨s, hs, (hfile.2 s).mp hs, hbrowser⟩
  · obtain ⟨s, hs, hfrom⟩ := hvariables
    have hbrowser := hchosen.2
    rw [hs] at hbrowser
    exact ⟨s, hs, hfrom, Option.some.inj hbrowser⟩

/-- A variable does not count over a file, not even where the file says nothing. -/
theorem variable_hidden_by_file :
    ¬ ∀ (files : Files) (env : Environment) (path : Path) (s : Settings), env.Fits →
      ofFile files env path = .ok s → ∀ x ∈ browserPart.fields, ∀ given,
      env.fieldValue? browserPart.names x.name = some given →
      x.read given = .fits (x.get s.browser) := by
  intro hcounts
  have hs : (ofFile emptySettingsFile browserVariables (.ofText "settings.yaml")).toOption.map
      (·.browser.browser) = some "chromium" := by
    decide +kernel
  have hgiven : browserVariables.fieldValue? browserPart.names "browser" =
      some (.text "firefox") := by
    have hfound : browserVariables.find? usualStyle (browserPart.names.variableOf "browser") =
        some "firefox" := by
      decide +kernel
    rw [Environment.fieldValue?, hfound]
    rfl
  -- The file says nothing, so its settings have the standard browser and not the chosen one.
  cases hfile : ofFile emptySettingsFile browserVariables (.ofText "settings.yaml") with
  | error e =>
      rw [hfile] at hs
      cases hs
  | ok s =>
      rw [hfile] at hs
      have hbrowser : s.browser.browser = "chromium" := Option.some.inj hs
      have hread : Read.text (.text "firefox") = .fits s.browser.browser :=
        hcounts _ _ _ s browserVariables_fit hfile _
          (List.mem_cons_of_mem _ (List.mem_cons_self ..)) _ hgiven
      rw [hbrowser] at hread
      exact absurd (Check.fits.inj hread) (by decide)

end Settings

end FormPress
