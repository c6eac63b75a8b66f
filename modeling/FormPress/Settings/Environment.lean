/-
  FormPress.Settings.Environment

  Settings given by variables of the environment. A variable is named by a first
  word, a section and possibly a field of it; a section may also be given as a
  whole, as a JSON object, and then the variables of its fields count more. How
  variables are named can be chosen (`VariableStyle`); as a rule case does not
  matter in names. Settings can also be given as arguments, which count most.
-/
import FormPress.Failure
import FormPress.Settings.Read

namespace FormPress

/-- The variables of the environment. -/
abbrev Environment := List (String × String)

/-! ## Joining objects -/

mutual

/-- A value over another one: objects are joined, anything else replaces. -/
def Value.over (old : Value) : Value → Value
  | .object fields =>
    match old with
    | .object olds => .object (Fields.over olds fields)
    | _ => .object fields
  | v => v

/-- Fields over others: a field of both is joined in its old place, a new one goes to the end. -/
def Fields.over (olds : Fields) : Fields → Fields
  | [] => olds
  | (k, v) :: rest =>
    let v' := match Fields.find? olds k with
      | some old => Value.over old v
      | none => v
    Fields.over (Fields.set olds k v') rest

end

/-! ## Names -/

/-- How variables are named. -/
structure VariableStyle where
  /-- what all names begin with -/
  start : String := "FORMDOC_"
  /-- what stands between a section and its field; where it is empty, fields have no variables -/
  delimiter : String := "__"
  exactCase : Bool := false
  /-- whether empty variables count as absent -/
  skipsEmpty : Bool := false
  /-- the text that stands for null -/
  nullWord : Option String := none
  deriving Repr, DecidableEq, Inhabited

namespace VariableStyle

variable (style : VariableStyle)

/-- A name as it is compared. -/
def folded (name : String) : String := if style.exactCase then name else Text.lower name

/-- The name of the variable of a part. -/
def nameOf (part : String) : String := style.folded (style.start ++ part)

/-- The value of a variable. -/
def valueOf (given : String) : Value := if style.nullWord == some given then .null else .text given

end VariableStyle

/-- The rest of a text after a beginning. -/
def afterStart? (start s : List Char) : Option (List Char) :=
  if start.isPrefixOf s then some (s.drop start.length) else none

/-- The pieces of a name between delimiters; `skip` counts the characters of a delimiter that are
    still to be passed over. -/
def namePieces (delimiter : List Char) : Nat → List Char → List (List Char)
  | _, [] => [[]]
  | skip + 1, _ :: s => namePieces delimiter skip s
  | 0, c :: s =>
    if delimiter.isPrefixOf (c :: s) then [] :: namePieces delimiter (delimiter.length - 1) s
    else
      match namePieces delimiter 0 s with
      | [] => [[c]]
      | p :: ps => (c :: p) :: ps

/-- The path of a variable's name below a section, if it names a part of it. -/
def partPath? (style : VariableStyle) (part : String) (name : String) : Option (List String) :=
  if style.delimiter == "" then none
  else
    (afterStart? (style.nameOf part ++ style.delimiter).toList (style.folded name).toList).map
      fun rest => (namePieces style.delimiter.toList 0 rest).map String.ofList

/-! ## Sections -/

/-- A section of the settings: its name and those of its fields, and which of them are lists. -/
structure SectionNames where
  name : String
  fields : List String
  lists : List String

/-- The sections of the settings. -/
def settingSections : List SectionNames := [
  { name := "pdf_backend"
    fields := ["engine", "browser", "wait_until", "timeout_ms"]
    lists := [] },
  { name := "page_layout"
    fields := ["paper_format", "body_margin_top", "body_margin_right", "body_margin_bottom",
      "body_margin_left", "cover_margin"]
    lists := [] },
  { name := "assets"
    fields := ["assets_dir", "crest_candidates", "text_logo"]
    lists := ["crest_candidates"] },
  { name := "logging", fields := ["log_level", "log_format"], lists := [] }]

/-- Writes a value below some names; a value that is no object in between stops it. -/
def nest (fields : Fields) : List String → Value → Fields
  | [], _ => fields
  | [name], v => Fields.set fields (.text name) v
  | name :: names, v =>
    match Fields.get? fields name with
    | none => Fields.set fields (.text name) (.object (nest [] names v))
    | some (.object inner) => Fields.set fields (.text name) (.object (nest inner names v))
    | some _ => fields

/-- The value of a variable that is given as JSON. -/
def jsonValue (name given : String) : Except Failure Value :=
  match Json.read given with
  | .ok v => .ok v
  | .error .tooDeep => .error (.data .json .tooDeep)
  | .error _ => .error (.setting name)

/-- Whether a name is that of a list in a section, alone or after the beginning of variables. -/
def SectionNames.isList (s : SectionNames) (style : VariableStyle) (name : String) : Bool :=
  s.lists.any fun field => style.folded field == name || style.nameOf field == name

/-- The value of a variable below a section: a list is given as JSON, anything else as it is. -/
def partValue (style : VariableStyle) (s : SectionNames) (names : List String) (given : String) :
    Except Failure Value :=
  match names with
  | [name] =>
    if s.isList style name && given != "" && style.nullWord != some given then jsonValue s.name given
    else .ok (style.valueOf given)
  | _ => .ok (style.valueOf given)

/-- A field's name in the spelling of the section, if it is one of its fields in any case. -/
def SectionNames.spelling (s : SectionNames) (key : Scalar) : Scalar :=
  match key with
  | .text name =>
    match s.fields.find? fun f => f == Text.lower name with
    | some f => .text f
    | none => key
  | key => key

/-- The fields under the spelling of their section, where case does not matter. -/
def SectionNames.respell (s : SectionNames) (style : VariableStyle) (fields : Fields) : Fields :=
  if style.exactCase then fields
  else fields.foldl (fun acc f => Fields.set acc (s.spelling f.1) f.2) []

namespace Environment

variable (style : VariableStyle)

/-- The variables that count. -/
def counting (env : Environment) : Environment :=
  if style.skipsEmpty then env.filter (·.2 != "") else env

/-- The value of a variable of settings; of two spellings of one name the later counts. -/
def find? (env : Environment) (part : String) : Option String :=
  (env.reverse.find? fun v => style.folded v.1 == style.nameOf part).map (·.2)

/-- The variables of the fields of a section as an object. -/
def parts (s : SectionNames) : Environment → Fields → Except Failure Fields
  | [], fields => .ok fields
  | (name, given) :: rest, fields =>
    match partPath? style s.name name with
    | some names => do
      let v ← partValue style s names given
      parts s rest (nest fields names v)
    | none => parts s rest fields

/-- What the variables give for a section. -/
def sectionValue? (env : Environment) (s : SectionNames) : Except Failure (Option Value) := do
  match (env.find? style s.name).filter fun given => style.nullWord != some given with
  | none =>
    let fields ← parts style s env []
    return if fields.isEmpty then none else some (.object (s.respell style fields))
  | some given =>
    match ← jsonValue s.name given with
    | .object fields =>
      let parts ← parts style s env []
      return some (.object (s.respell style (Fields.over fields parts)))
    | v => return if v.isNull then none else some v

/-- What the variables give for some sections. -/
def sectionFields (env : Environment) : List SectionNames → Except Failure Fields
  | [] => .ok []
  | s :: rest => do
    let v ← sectionValue? style env s
    let fields ← sectionFields env rest
    return (match v with | some v => (.text s.name, v) :: fields | none => fields)

/-- The path of the profile that the variables give. -/
def profilePath? (env : Environment) : Option String := env.find? style "profile_path"

/-- What the variables give. -/
def fields (env : Environment) : Except Failure Fields := do
  let env := env.counting style
  let sections ← sectionFields style env settingSections
  return (match env.profilePath? style with
    | some s => (.text "profile_path", style.valueOf s) :: sections
    | none => sections)

end Environment

/-! ## Settings from arguments and the environment -/

namespace Settings

/-- The arguments that are no settings but say how the environment is read, and further ones that
    change nothing here. -/
def specialArguments : List String := [
  "_case_sensitive", "_env_prefix", "_env_nested_delimiter", "_env_ignore_empty",
  "_env_parse_none_str", "_nested_model_default_partial_update", "_env_file", "_env_file_encoding",
  "_env_nested_max_split", "_env_parse_enums", "_cli_prog_name", "_cli_parse_args",
  "_cli_settings_source", "_cli_parse_none_str", "_cli_hide_none_type", "_cli_avoid_json",
  "_cli_enforce_required", "_cli_use_class_docs_for_groups", "_cli_exit_on_error", "_cli_prefix",
  "_cli_flag_prefix_char", "_cli_implicit_flags", "_cli_ignore_unknown_args", "_cli_kebab_case",
  "_cli_shortcuts", "_secrets_dir"]

/-- Whether a key names a special argument. -/
def isSpecial (key : Scalar) : Bool :=
  specialArguments.any fun name => (Scalar.text name).same key

/-- A text among the special arguments. -/
def specialText? (given : Fields) (name : String) : Option String :=
  match Fields.get given name with
  | .text s => some s
  | _ => none

/-- How arguments ask the environment to be read. -/
def styleOf (given : Fields) : VariableStyle :=
  let d : VariableStyle := {}
  { start := (specialText? given "_env_prefix").getD d.start
    delimiter := (specialText? given "_env_nested_delimiter").getD d.delimiter
    exactCase := (Fields.get given "_case_sensitive").truthy
    skipsEmpty := (Fields.get given "_env_ignore_empty").truthy
    nullWord := specialText? given "_env_parse_none_str" }

/-- Whether a key names a setting. -/
def isNamed (style : VariableStyle) (name : String) : Scalar → Bool
  | .text s => style.folded s == name
  | _ => false

/-- The arguments under the names of settings, the settings first in their order. Of several
    spellings of one name the first counts. -/
def arguments (style : VariableStyle) (given : Fields) : Fields :=
  let known := fieldNames.filterMap fun name =>
    (List.find? (fun f => isNamed style name f.1) given).map fun f => (Scalar.text name, f.2)
  known ++ given.filter fun f => !fieldNames.any fun name => isNamed style name f.1

/-- The settings that arguments give, over those of the environment. -/
def ofFields (env : Environment) (given : Fields) : Except Failure Settings := do
  let style := styleOf given
  let fields ← env.fields style
  let given := arguments style (given.filter fun f => !isSpecial f.1)
  (Settings.read (Fields.over fields given)).orFail .settings

end Settings

end FormPress
