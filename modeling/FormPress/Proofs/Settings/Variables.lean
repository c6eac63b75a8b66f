/-
  FormPress.Proofs.Settings.Variables

  What variables of the environment give when each of them either names a field
  of a section, with a value that can be read, or nothing of the settings
  (`Environment.IsReadable`).  Every field is then given the value of the last
  variable of its name, and nothing else is given (`Environment.IsReadable.fields`).
-/
import FormPress.Proofs.Record.Fields
import FormPress.Settings.Environment

namespace FormPress

/-- How variables are named where nothing else is asked for. -/
abbrev usualStyle : VariableStyle := {}

/-! ## Names -/

namespace VariableStyle

/-- In ASCII letters become small one by one. -/
theorem lowerFrom_ascii {s : List Char} (h : ∀ c ∈ s, c.toNat < 128) (before : List Char) :
    Text.lowerFrom before s = s.map Char.toLower := by
  induction s generalizing before with
  | nil => rfl
  | cons c rest ih =>
      have hc : c.toNat < 128 := h c (List.mem_cons_self ..)
      -- The two letters that become small in a way of their own are no ASCII letters.
      have hdotted : (c == 'İ') = false := by
        rw [beq_eq_false_iff_ne]
        rintro rfl
        exact absurd hc (by decide)
      have hsigma : (c == 'Σ') = false := by
        rw [beq_eq_false_iff_ne]
        rintro rfl
        exact absurd hc (by decide)
      rw [Text.lowerFrom, ih (fun d hd => h d (List.mem_cons_of_mem _ hd)), Text.lowerAt, hdotted,
        hsigma, Text.lowerChar, if_pos hc]
      rfl

/-- Whether a name has small letters and signs only. -/
def isSmall (name : String) : Bool := name.toList.all fun c => c.toNat < 128 && c.toLower == c

/-- The variables of small names have them behind the first word. -/
theorem nameOf_toList {part : String} (h : isSmall part = true) :
    (usualStyle.nameOf part).toList = (usualStyle.nameOf "").toList ++ part.toList := by
  have hpart : ∀ c ∈ part.toList, c.toNat < 128 ∧ c.toLower = c := by
    intro c hc
    have hsmall := List.all_eq_true.mp h c hc
    simpa using hsmall
  have hstart : ∀ c ∈ usualStyle.start.toList, c.toNat < 128 := by
    have hall : usualStyle.start.toList.all (fun c => decide (c.toNat < 128)) = true := rfl
    exact fun c hc => of_decide_eq_true (List.all_eq_true.mp hall c hc)
  have hsame : part.toList.map Char.toLower = part.toList :=
    calc part.toList.map Char.toLower
        = part.toList.map id := List.map_congr_left fun c hc => (hpart c hc).2
      _ = part.toList := List.map_id _
  have hboth : ∀ c ∈ usualStyle.start.toList ++ part.toList, c.toNat < 128 := by
    intro c hc
    rcases List.mem_append.mp hc with hc | hc
    · exact hstart c hc
    · exact (hpart c hc).1
  simp only [nameOf, folded, Bool.false_eq_true, if_false, Text.lower, String.toList_append,
    String.toList_ofList, lowerFrom_ascii hboth, List.map_append, hsame, String.append_empty,
    lowerFrom_ascii hstart]

end VariableStyle

open VariableStyle (isSmall nameOf_toList)

/-- The variable of a field, without the first word of its name. -/
def SectionNames.variableOf (s : SectionNames) (field : String) : String :=
  s.name ++ usualStyle.delimiter ++ field

/-- The parts of names that are asked for: the profile, the sections and their fields. -/
def askedNames : List String :=
  "profile_path" :: settingSections.flatMap fun s => s.name :: s.fields.map s.variableOf

theorem isSmall_asked : ∀ part ∈ askedNames, isSmall part = true := by
  decide +kernel

/-- What is asked for has a variable of its own. -/
theorem nameOf_inj {part other : String} (hpart : part ∈ askedNames) (hother : other ∈ askedNames)
    (h : usualStyle.nameOf part = usualStyle.nameOf other) : part = other := by
  have hlist := congrArg String.toList h
  -- Behind the common first word both names stand as they are.
  rw [nameOf_toList (isSmall_asked part hpart), nameOf_toList (isSmall_asked other hother),
    List.append_cancel_left_eq] at hlist
  exact String.toList_inj.mp hlist

theorem section_eq_of_name : ∀ s ∈ settingSections, ∀ t ∈ settingSections,
    s.name = t.name → s = t := by
  simp [settingSections]

/-- No section as a whole, nor the profile, has the variable of a field. -/
theorem variable_ne : ∀ s ∈ settingSections, ∀ field ∈ s.fields,
    s.variableOf field ≠ "profile_path" ∧ ∀ t ∈ settingSections, s.variableOf field ≠ t.name := by
  decide +kernel

section

variable {s : SectionNames} {field : String}

theorem name_asked (hs : s ∈ settingSections) : s.name ∈ askedNames :=
  List.mem_cons_of_mem _ (List.mem_flatMap.mpr ⟨s, hs, List.mem_cons_self ..⟩)

theorem variable_asked (hs : s ∈ settingSections) (hfield : field ∈ s.fields) :
    s.variableOf field ∈ askedNames :=
  List.mem_cons_of_mem _ (List.mem_flatMap.mpr
    ⟨s, hs, List.mem_cons_of_mem _ (List.mem_map.mpr ⟨field, hfield, rfl⟩)⟩)

end

/-! ## Paths -/

/-- What follows a beginning is the same behind a common front. -/
theorem afterStart?_append (front start s : List Char) :
    afterStart? (front ++ start) (front ++ s) = afterStart? start s := by
  have hprefix : (front ++ start).isPrefixOf (front ++ s) = start.isPrefixOf s := by
    rw [Bool.eq_iff_iff, List.isPrefixOf_iff_prefix, List.isPrefixOf_iff_prefix,
      List.prefix_append_right_inj]
  rw [afterStart?, afterStart?, hprefix, List.length_append, ← List.drop_drop, List.drop_left]

/-- The path below a section of a name in small letters. -/
def pathBelow (part : String) (name : List Char) : Option (List String) :=
  (afterStart? (part ++ usualStyle.delimiter).toList name).map
    fun rest => (namePieces usualStyle.delimiter.toList 0 rest).map String.ofList

/-- The variable of a field leads to the field below its section and nowhere below another one. -/
theorem pathBelow_variable : ∀ s ∈ settingSections, ∀ field ∈ s.fields, ∀ t ∈ settingSections,
    pathBelow t.name (s.variableOf field).toList =
      if s.name = t.name then some [field] else none := by
  decide +kernel

/-- Behind the first word of the names, a path is read from the rest of a name. -/
theorem partPath?_of_folded {part name : String} {rest : List Char} (hpart : part ∈ askedNames)
    (hname : (usualStyle.folded name).toList = (usualStyle.nameOf "").toList ++ rest) :
    partPath? usualStyle part name = pathBelow part rest := by
  rw [partPath?, if_neg (by decide), pathBelow, hname, String.toList_append,
    nameOf_toList (isSmall_asked part hpart), List.append_assoc, afterStart?_append,
    String.toList_append]

/-! ## Variables -/

/-- Whether a variable has nothing to do with the settings: its name does not begin as theirs. -/
def isForeign (v : String × String) : Bool :=
  !(usualStyle.nameOf "").toList.isPrefixOf (usualStyle.folded v.1).toList

/-- A variable that gives a field of a section a value. -/
structure SetsField (v : String × String) (s : SectionNames) (field : String) (given : Value) :
    Prop where
  names : usualStyle.folded v.1 = usualStyle.nameOf (s.variableOf field)
  gives : partValue usualStyle s [field] v.2 = .ok given

/-- A foreign variable is none of those that are asked for. -/
theorem ne_of_isForeign {v : String × String} (h : isForeign v = true) {part : String}
    (hpart : part ∈ askedNames) : usualStyle.folded v.1 ≠ usualStyle.nameOf part := by
  intro hname
  rw [isForeign, hname, nameOf_toList (isSmall_asked part hpart), Bool.not_eq_true',
    ← Bool.not_eq_true, List.isPrefixOf_iff_prefix] at h
  exact h (List.prefix_append ..)

/-- A foreign variable leads nowhere. -/
theorem path_of_isForeign {v : String × String} (h : isForeign v = true) {part : String}
    (hpart : part ∈ askedNames) : partPath? usualStyle part v.1 = none := by
  -- A path needs the first word in front of the name.
  have hno : (usualStyle.nameOf part ++ usualStyle.delimiter).toList.isPrefixOf
      (usualStyle.folded v.1).toList = false := by
    rw [← Bool.not_eq_true, List.isPrefixOf_iff_prefix, String.toList_append,
      nameOf_toList (isSmall_asked part hpart), List.append_assoc]
    intro hprefix
    rw [isForeign, Bool.not_eq_true', ← Bool.not_eq_true, List.isPrefixOf_iff_prefix] at h
    exact h ((List.prefix_append ..).trans hprefix)
  rw [partPath?, if_neg (by decide), afterStart?, hno]
  rfl

/-- A variable of a field leads to it from its section alone. -/
theorem SetsField.path {v : String × String} {s t : SectionNames} {field : String} {given : Value}
    (h : SetsField v s field given) (hs : s ∈ settingSections) (hfield : field ∈ s.fields)
    (ht : t ∈ settingSections) :
    partPath? usualStyle t.name v.1 = if s.name = t.name then some [field] else none := by
  have hname : (usualStyle.folded v.1).toList =
      (usualStyle.nameOf "").toList ++ (s.variableOf field).toList := by
    rw [h.names, nameOf_toList (isSmall_asked _ (variable_asked hs hfield))]
  rw [partPath?_of_folded (name_asked ht) hname, pathBelow_variable s hs field hfield t ht]

/-- A field has a variable of its own. -/
theorem SetsField.eq_of_names {v : String × String} {s t : SectionNames} {field other : String}
    {given : Value} (h : SetsField v s field given) (hs : s ∈ settingSections)
    (hfield : field ∈ s.fields) (ht : t ∈ settingSections) (hother : other ∈ t.fields)
    (hname : usualStyle.folded v.1 = usualStyle.nameOf (t.variableOf other)) :
    s = t ∧ field = other := by
  have hvariable : s.variableOf field = t.variableOf other :=
    nameOf_inj (variable_asked hs hfield) (variable_asked ht hother) (h.names ▸ hname)
  -- The path below a section tells whose variable it is.
  have hpath := pathBelow_variable s hs field hfield t ht
  rw [hvariable, pathBelow_variable t ht other hother t ht, if_pos rfl] at hpath
  split at hpath
  · rename_i hsame
    obtain rfl := section_eq_of_name s hs t ht hsame
    exact ⟨rfl, (List.cons.inj (Option.some.inj hpath)).1.symm⟩
  · cases hpath

namespace Environment

/-- Every variable gives a field of the settings a value, or has nothing to do with them. -/
def IsReadable (env : Environment) : Prop :=
  ∀ v ∈ env, isForeign v = true ∨ ∃ s ∈ settingSections, ∃ field ∈ s.fields, ∃ given,
    SetsField v s field given

/-- The value that the last variable of a field gives it. -/
def fieldValue? (env : Environment) (s : SectionNames) (field : String) : Option Value :=
  (env.find? usualStyle (s.variableOf field)).bind fun given =>
    (partValue usualStyle s [field] given).toOption

/-- Of the variables of one name the last one counts. -/
theorem find?_cons (v : String × String) (env : Environment) (part : String) :
    find? usualStyle (v :: env) part =
      (find? usualStyle env part).or
        (if usualStyle.folded v.1 = usualStyle.nameOf part then some v.2 else none) := by
  rw [find?, List.reverse_cons, List.find?_append, Option.map_or, List.find?_singleton]
  by_cases hname : usualStyle.folded v.1 = usualStyle.nameOf part
  · rw [if_pos hname, if_pos (beq_iff_eq.mpr hname)]
    rfl
  · rw [if_neg hname, if_neg (mt beq_iff_eq.mp hname)]
    rfl

/-- What is found is the value of a variable of the name. -/
theorem mem_of_find? {env : Environment} {part given : String}
    (h : env.find? usualStyle part = some given) :
    ∃ v ∈ env, usualStyle.folded v.1 = usualStyle.nameOf part ∧ v.2 = given := by
  rw [find?, Option.map_eq_some_iff] at h
  obtain ⟨v, hv, hgiven⟩ := h
  have hname := List.find?_some hv
  rw [beq_iff_eq] at hname
  exact ⟨v, List.mem_reverse.mp (List.mem_of_find?_eq_some hv), hname, hgiven⟩

section

variable {env : Environment} {s : SectionNames} {field : String}

theorem IsReadable.tail {v : String × String} (h : IsReadable (v :: env)) : IsReadable env :=
  fun w hw => h w (List.mem_cons_of_mem _ hw)

/-- What is asked for and is no variable of a field is not given. -/
theorem IsReadable.find?_eq_none (h : IsReadable env) {part : String} (hpart : part ∈ askedNames)
    (hother : ∀ t ∈ settingSections, ∀ field ∈ t.fields, t.variableOf field ≠ part) :
    env.find? usualStyle part = none := by
  -- No variable has the name: foreign ones have none that is asked for, the others one of a field.
  induction env with
  | nil => rfl
  | cons v rest ih =>
      have hname : usualStyle.folded v.1 ≠ usualStyle.nameOf part := by
        rcases h v (List.mem_cons_self ..) with hforeign | ⟨t, ht, field, hfield, given, hsets⟩
        · exact ne_of_isForeign hforeign hpart
        · rw [hsets.names]
          exact fun hsame =>
            hother t ht field hfield (nameOf_inj (variable_asked ht hfield) hpart hsame)
      rw [find?_cons, ih h.tail, if_neg hname]
      rfl

/-- The variable of a field holds a value of it. -/
theorem IsReadable.value_of_find? (h : IsReadable env) (hs : s ∈ settingSections)
    (hfield : field ∈ s.fields) {given : String}
    (hfound : env.find? usualStyle (s.variableOf field) = some given) :
    ∃ v, partValue usualStyle s [field] given = .ok v := by
  -- The variable that is found is one of those that can be read, and by its name one of this field.
  obtain ⟨v, hmem, hname, rfl⟩ := mem_of_find? hfound
  rcases h v hmem with hforeign | ⟨t, ht, other, hother, w, hsets⟩
  · exact absurd hname (ne_of_isForeign hforeign (variable_asked hs hfield))
  · obtain ⟨rfl, rfl⟩ := hsets.eq_of_names ht hother hs hfield hname
    exact ⟨w, hsets.gives⟩

/-- A later variable of a field counts, and without one the first. -/
theorem fieldValue?_cons (h : IsReadable env) (hs : s ∈ settingSections) (hfield : field ∈ s.fields)
    (v : String × String) :
    fieldValue? (v :: env) s field =
      (env.fieldValue? s field).or
        (if usualStyle.folded v.1 = usualStyle.nameOf (s.variableOf field) then
          (partValue usualStyle s [field] v.2).toOption else none) := by
  rw [fieldValue?, find?_cons, fieldValue?]
  cases hfound : env.find? usualStyle (s.variableOf field) with
  | some given =>
      obtain ⟨w, hw⟩ := h.value_of_find? hs hfield hfound
      rw [Option.some_or, Option.bind_some, hw]
      rfl
  | none =>
      rw [Option.none_or, Option.bind_none, Option.none_or]
      split <;> rfl

end

end Environment

/-! ## Sections -/

/-- Fields of a section, each once and under its name. -/
structure SectionNames.Spells (s : SectionNames) (fields : Fields) : Prop where
  once : (fields.map Prod.fst).Nodup
  known : ∀ key ∈ fields.map Prod.fst, ∃ field ∈ s.fields, key = .text field

namespace SectionNames

theorem find_lower : ∀ s ∈ settingSections, ∀ field ∈ s.fields,
    s.fields.find? (fun f => f == Text.lower field) = some field := by
  decide +kernel

variable {s : SectionNames} {fields : Fields}

theorem Spells.nil : s.Spells [] := ⟨List.nodup_nil, nofun⟩

/-- A field that is set is still there once and under its name. -/
theorem Spells.set (h : s.Spells fields) {field : String} (hfield : field ∈ s.fields) (v : Value) :
    s.Spells (Fields.set fields (.text field) v) := by
  -- A field that is there keeps its place; a new one goes to the end.
  by_cases hthere : .text field ∈ fields.map Prod.fst
  · have hkeys := Fields.map_fst_set (v := v) hthere
    exact ⟨hkeys ▸ h.once, hkeys ▸ h.known⟩
  · rw [Fields.set_of_new hthere]
    constructor
    · rw [List.map_append, List.nodup_append]
      refine ⟨h.once, by simp, ?_⟩
      rintro key hkey _ hnew rfl
      have hsame : key = .text field := List.mem_singleton.mp hnew
      exact hthere (hsame ▸ hkey)
    · intro key hkey
      rw [List.map_append, List.mem_append] at hkey
      rcases hkey with hold | hnew
      · exact h.known key hold
      · exact ⟨field, hfield, List.mem_singleton.mp hnew⟩

/-- Fields under their names need no other spelling. -/
theorem Spells.respell_eq (hs : s ∈ settingSections) (h : s.Spells fields) :
    s.respell usualStyle fields = fields := by
  -- Each name is new among those before it, so its field goes to the end.
  have hfold : ∀ acc : Fields, s.Spells (acc ++ fields) →
      fields.foldl (fun acc f => Fields.set acc (s.spelling f.1) f.2) acc = acc ++ fields := by
    intro acc hacc
    clear h
    induction fields generalizing acc with
    | nil => exact (List.append_nil acc).symm
    | cons f rest ih =>
        obtain ⟨key, v⟩ := f
        obtain ⟨field, hfield, hkey⟩ := hacc.known key (by simp)
        obtain rfl : key = .text field := hkey
        have hspelling : s.spelling (.text field) = .text field := by
          rw [spelling, find_lower s hs field hfield]
        have hnew : Scalar.text field ∉ acc.map Prod.fst := by
          have honce := hacc.once
          rw [List.map_append, List.nodup_append] at honce
          exact fun hthere => honce.2.2 _ hthere _ (List.mem_cons_self ..) rfl
        have hmove : (acc ++ [(.text field, v)]) ++ rest = acc ++ (.text field, v) :: rest :=
          List.append_assoc ..
        rw [List.foldl_cons, hspelling, Fields.set_of_new hnew, ih _ (hmove.symm ▸ hacc), hmove]
  rw [respell, if_neg Bool.false_ne_true, hfold [] h, List.nil_append]

end SectionNames

namespace Environment

variable {env : Environment} {s : SectionNames}

/-- A variable that can be read sets a field of a section, or it is about none of its fields. -/
theorem IsReadable.sets_or_passes {v : String × String} (h : IsReadable (v :: env))
    (hs : s ∈ settingSections) :
    (∃ field ∈ s.fields, ∃ given, SetsField v s field given) ∨
      (partPath? usualStyle s.name v.1 = none ∧
        ∀ field ∈ s.fields, usualStyle.folded v.1 ≠ usualStyle.nameOf (s.variableOf field)) := by
  rcases h v (List.mem_cons_self ..) with hforeign | ⟨t, ht, set, hset, given, hsets⟩
  · exact .inr ⟨path_of_isForeign hforeign (name_asked hs),
      fun field hfield => ne_of_isForeign hforeign (variable_asked hs hfield)⟩
  · -- A variable of a field is one of this section or of another one.
    by_cases hsame : t.name = s.name
    · obtain rfl := section_eq_of_name t ht s hs hsame
      exact .inl ⟨set, hset, given, hsets⟩
    · refine .inr ⟨?_, fun field hfield hnames => ?_⟩
      · rw [hsets.path ht hset hs, if_neg hsame]
      · exact hsame (congrArg _ (hsets.eq_of_names ht hset hs hfield hnames).1)

/-- The variables of the fields of a section give each field its value, over what it has before. -/
theorem IsReadable.parts (h : IsReadable env) (hs : s ∈ settingSections) {fields : Fields}
    (hfields : s.Spells fields) :
    ∃ given, Environment.parts usualStyle s env fields = .ok given ∧ s.Spells given ∧
      ∀ field ∈ s.fields, Fields.get? given field =
        (env.fieldValue? s field).or (Fields.get? fields field) := by
  induction env generalizing fields with
  | nil => exact ⟨fields, rfl, hfields, fun field _ => rfl⟩
  | cons v rest ih =>
      rcases h.sets_or_passes hs with ⟨set, hset, w, hsets⟩ | ⟨hpath, hnames⟩
      · -- The rest is read over the value of this variable; a later one of its field replaces it.
        obtain ⟨given, hgiven, hspells, hvalues⟩ := ih h.tail (hfields.set hset w)
        refine ⟨given, ?_, hspells, fun field hfield => ?_⟩
        · rw [Environment.parts, hsets.path hs hset hs, if_pos rfl]
          simp only [hsets.gives]
          exact hgiven
        · rw [hvalues field hfield, fieldValue?_cons h.tail hs hfield, Fields.get?_set,
            Option.or_assoc]
          by_cases hname : set = field
          · subst hname
            rw [if_pos rfl, if_pos hsets.names, hsets.gives]
            rfl
          · have hother : usualStyle.folded v.1 ≠ usualStyle.nameOf (s.variableOf field) :=
              fun hnames => hname (hsets.eq_of_names hs hset hs hfield hnames).2
            rw [if_neg hname, if_neg hother, Option.none_or]
      · obtain ⟨given, hgiven, hspells, hvalues⟩ := ih h.tail hfields
        refine ⟨given, ?_, hspells, fun field hfield => ?_⟩
        · rw [Environment.parts, hpath]
          exact hgiven
        · rw [hvalues field hfield, fieldValue?_cons h.tail hs hfield, if_neg (hnames field hfield),
            Option.or_none]

/-- No variable that can be read names a profile. -/
theorem IsReadable.profilePath? (h : IsReadable env) : env.profilePath? usualStyle = none := by
  apply h.find?_eq_none (List.mem_cons_self ..)
  intro t ht field hfield
  exact (variable_ne t ht field hfield).1

/-- What is given for a section: its fields with their values, unless there are none. -/
structure GivesSection (env : Environment) (s : SectionNames) (value : Option Value)
    (given : Fields) : Prop where
  value : value = if given.isEmpty then none else some (.object given)
  fields : ∀ field ∈ s.fields, Fields.get? given field = env.fieldValue? s field

/-- A section is given the values of its variables. -/
theorem IsReadable.sectionValue? (h : IsReadable env) (hs : s ∈ settingSections) :
    ∃ value given, Environment.sectionValue? usualStyle env s = .ok value ∧
      env.GivesSection s value given := by
  obtain ⟨given, hgiven, hspells, hvalues⟩ := h.parts hs .nil
  -- No variable gives the section as a whole.
  have hwhole : env.find? usualStyle s.name = none := by
    apply h.find?_eq_none (name_asked hs)
    intro t ht field hfield
    exact (variable_ne t ht field hfield).2 s hs
  refine ⟨_, given, ?_, rfl, fun field hfield => ?_⟩
  · rw [Environment.sectionValue?, hwhole, Option.filter_none, hgiven]
    show Except.ok (if given.isEmpty then none
      else some (Value.object (s.respell usualStyle given))) = _
    rw [hspells.respell_eq hs]
  · rw [hvalues field hfield]
    exact Option.or_none

/-- Fields that hold what is given for some sections. -/
structure GivesSections (env : Environment) (sections : List SectionNames) (fields : Fields) :
    Prop where
  known : ∀ key ∈ fields.map Prod.fst, ∃ s ∈ sections, key = .text s.name
  each : ∀ s ∈ sections, ∃ given, env.GivesSection s (Fields.get? fields s.name) given

/-- The field of a section that holds what is given for it, if anything is. -/
def fieldOf (s : SectionNames) : Option Value → Fields
  | some v => [(.text s.name, v)]
  | none => []

/-- The field of a section is found under its name alone. -/
theorem get?_fieldOf (value : Option Value) (name : String) :
    Fields.get? (fieldOf s value) name = if s.name = name then value else none := by
  cases value with
  | none => exact (ite_self none).symm
  | some v =>
      rw [fieldOf, Fields.get?_cons]
      simp only [Scalar.sameKey_text, Scalar.text.injEq]
      rfl

theorem mem_fieldOf {value : Option Value} {key : Scalar}
    (h : key ∈ (fieldOf s value).map Prod.fst) : key = .text s.name := by
  cases value with
  | none => cases h
  | some v => exact List.mem_singleton.mp h

/-- One more section, whose name is none of theirs, in front of some sections. -/
theorem GivesSections.cons {sections : List SectionNames} {fields given : Fields}
    {value : Option Value} (h : env.GivesSections sections fields)
    (hs : s.name ∉ sections.map (·.name)) (hgives : env.GivesSection s value given) :
    env.GivesSections (s :: sections) (fieldOf s value ++ fields) where
  known := by
    intro key hkey
    rw [List.map_append, List.mem_append] at hkey
    rcases hkey with hkey | hkey
    · exact ⟨s, List.mem_cons_self .., mem_fieldOf hkey⟩
    · obtain ⟨t, ht, rfl⟩ := h.known key hkey
      exact ⟨t, List.mem_cons_of_mem _ ht, rfl⟩
  each := by
    intro t ht
    rw [Fields.get?_append, get?_fieldOf]
    rcases List.mem_cons.mp ht with rfl | ht
    · have hnone : Fields.get? fields t.name = none := by
        rw [Fields.get?_eq_none_iff]
        intro hkey
        obtain ⟨u, hu, hname⟩ := h.known _ hkey
        exact hs (List.mem_map.mpr ⟨u, hu, (Scalar.text.inj hname).symm⟩)
      rw [if_pos rfl, hnone, Option.or_none]
      exact ⟨given, hgives⟩
    · have hother : s.name ≠ t.name := fun hname =>
        hs (List.mem_map.mpr ⟨t, ht, hname.symm⟩)
      rw [if_neg hother, Option.none_or]
      exact h.each t ht

/-- The sections are given the values of their variables, one after the other. -/
theorem IsReadable.sectionFields (h : IsReadable env) {sections : List SectionNames}
    (hsections : ∀ s ∈ sections, s ∈ settingSections) (hnames : (sections.map (·.name)).Nodup) :
    ∃ fields, Environment.sectionFields usualStyle env sections = .ok fields ∧
      env.GivesSections sections fields := by
  induction sections with
  | nil => exact ⟨[], rfl, nofun, nofun⟩
  | cons s rest ih =>
      obtain ⟨value, given, hvalue, hgives⟩ := h.sectionValue? (hsections s (List.mem_cons_self ..))
      -- The name of the section in front is none of those behind it.
      rw [List.map_cons, List.nodup_cons] at hnames
      obtain ⟨fields, hfields, hrest⟩ :=
        ih (fun t ht => hsections t (List.mem_cons_of_mem _ ht)) hnames.2
      refine ⟨fieldOf s value ++ fields, ?_, hrest.cons hnames.1 hgives⟩
      rw [Environment.sectionFields, hvalue, hfields]
      cases value <;> rfl

/-- Variables that can be read give the sections the values of their fields and nothing else. -/
theorem IsReadable.fields (h : IsReadable env) :
    ∃ fields, Environment.fields usualStyle env = .ok fields ∧
      env.GivesSections settingSections fields := by
  obtain ⟨fields, hfields, hgives⟩ := h.sectionFields (fun _ hs => hs) (by decide)
  refine ⟨fields, ?_, hgives⟩
  have hprofile : env.profilePath? usualStyle = none := h.profilePath?
  -- The standard settings leave no variable out, not even an empty one.
  have hall : counting usualStyle env = env := rfl
  rw [Environment.fields, hall, hfields, hprofile]
  rfl

end Environment

end FormPress
