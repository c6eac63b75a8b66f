/-
  FormPress.Tables.Basic

  Forms as flat tables: instances, forms, and the records of all their parts
  and answers, each with the key of the record above it.
-/
import FormPress.Settings.File
import FormPress.Tables.Order

namespace FormPress

/-- The tables of some forms. -/
structure FormTables where
  instances : List Value
  forms : List Value
  steps : List Value
  sections : List Value
  questions : List Value
  options : List Value
  rows : List Value
  answers : List Value
  deriving Repr, Inhabited

namespace FormTables

/-- The items of a table: those of a list, the keys of an object, the characters of a text or the
    numbers of bytes. What does not count as given is empty. -/
def items (v : Value) : Except Failure (List Value) :=
  if !v.truthy then .ok []
  else
    match v with
    | .list items => .ok items
    | .object fields => .ok (fields.map fun f => .scalar f.1)
    | .pair a b => .ok [a, b]
    | .set items => .ok (items.map .scalar)
    | .text s => .ok (s.toList.map fun c => .text (String.singleton c))
    | .scalar (.bytes bs) => .ok (bs.map fun b => .int b.toNat)
    | v => .error (.misuse (.asList v.kindName))

/-- The tables in a value. -/
def ofValue (v : Value) : Except Failure FormTables := do
  let fields ← v.partsFor "get"
  let table (name : String) := items (Fields.get fields name)
  return {
    instances := ← table "instances"
    forms := ← table "forms"
    steps := ← table "steps"
    sections := ← table "sections"
    questions := ← table "questions"
    options := ← table "options"
    rows := ← table "rows"
    answers := ← table "answers" }

/-- The value in a file, which holds JSON if its name says so, else YAML. -/
def readValue (files : Files) (path : Path) : Except Failure Value :=
  if path.suffix == ".json" then
    match files.readText path with
    | .error fault => .error (.file path fault)
    | .ok content =>
      match Json.read content with
      | .ok v => .ok v
      | .error fault => .error (.data .json fault)
  else files.readYaml path 3

/-- The tables in a file. -/
def ofFile (files : Files) (path : Path) : Except Failure FormTables := do
  if ← files.holds path then ofValue (← readValue files path)
  else .error (.engine (.missing (.file path)))

/-! ## Instances -/

/-- The id of a record that has one. -/
def idOf : Value → Except Failure Value
  | .object fields =>
    match Fields.get? fields "id" with
    | some v => .ok v
    | none => .error (.noField "id")
  | v => .error (.misuse (.asRecord v.kindName))

/-- The ids of all instances. -/
def instanceIds (t : FormTables) : Except Failure (List Value) := t.instances.mapM idOf

end FormTables

end FormPress
