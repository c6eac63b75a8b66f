/-
  FormPress.Data.Print

  Values written as JSON, and as YAML: an object has a line for each of its
  fields, a list one for each of its items, and everything inside them stands on
  that line in brackets.
-/
import FormPress.Data.Written

namespace FormPress

/-! ## Records as values -/

/-- An object with named fields. -/
def Value.record (fields : List (String × Value)) : Value :=
  .object (fields.map fun f => (.text f.1, f.2))

/-- A list of texts. -/
def Value.texts (items : List String) : Value := .list (items.map .text)

/-- Null, or a value. -/
def Value.maybe {α : Type} (write : α → Value) : Option α → Value
  | some a => write a
  | none => .null

/-! ## Scalars -/

/-- The words for special numbers, and what is marked where YAML asks for it. -/
structure FlowFormat where
  infinity : String
  notANumber : String
  /-- whether a number with an exponent has a point as well -/
  pointed : Bool
  /-- from which length on a key has a question mark in front -/
  longKey : Option Nat

/-- The words of JSON. -/
def jsonFlow : FlowFormat := ⟨"Infinity", "NaN", false, none⟩

/-- The words of YAML. -/
def yamlFlow : FlowFormat := ⟨".inf", ".nan", true, some 128⟩

/-- Characters that are written by their number between quotes. -/
def isControl (c : Char) : Bool :=
  let n := c.toNat
  n < 32 || n == 127 || n == 0x85 || n == 0xA0 || n == 0x2028 || n == 0x2029 || n == 0xFEFF

/-- A character between double quotes. -/
def flowChar (c : Char) : List Char :=
  if c == '"' || c == '\\' then ['\\', c]
  else if let some digits := halfDigits? c then ['\\', 'u'] ++ digits
  else if isControl c then ['\\', 'u'] ++ hexDigits 4 c.toNat
  else [c]

/-- A text between double quotes. -/
def flowText (s : String) : String :=
  String.ofList ('"' :: s.toList.flatMap flowChar ++ ['"'])

/-- A point before the exponent of a number that has none. -/
def addPoint (s : List Char) : List Char :=
  if s.contains '.' then s
  else s.flatMap fun c => if c == 'e' then ['.', '0', 'e'] else [c]

/-- A number. -/
def FlowFormat.float (f : FlowFormat) (x : Float) : String :=
  match Decimal.Shape.ofFloat x with
  | .notANumber => f.notANumber
  | .infinite negative => if negative then "-" ++ f.infinity else f.infinity
  | .finite _ =>
    let s := Decimal.Layout.plain.float x
    if f.pointed then String.ofList (addPoint s.toList) else s

/-- A scalar. -/
def FlowFormat.scalar (f : FlowFormat) : Scalar → String
  | .null => "null"
  | .bool b => truthText b
  | .number (.int n) => toString n
  | .number (.float x) => f.float x
  | .text s => flowText s
  | s => flowText s.display

/-- Whether a key has a question mark in front. -/
def FlowFormat.marks (f : FlowFormat) (key : Scalar) : Bool :=
  f.longKey.any fun n => n < key.display.length

/-- The mark in front of a key. -/
def FlowFormat.mark (f : FlowFormat) (key : Scalar) : String := if f.marks key then "? " else ""

/-! ## Values -/

mutual

/-- A value on one line. -/
def FlowFormat.value (f : FlowFormat) : Value → String
  | .scalar s => f.scalar s
  | .list items => "[" ++ ", ".intercalate (f.items items) ++ "]"
  | .object fields => "\x7b" ++ ", ".intercalate (f.fields fields) ++ "\x7d"
  | .pair a b => "[" ++ f.value a ++ ", " ++ f.value b ++ "]"
  | .set items => "[" ++ ", ".intercalate (items.map f.scalar) ++ "]"

/-- The items of a list. -/
def FlowFormat.items (f : FlowFormat) : List Value → List String
  | [] => []
  | v :: vs => f.value v :: f.items vs

/-- The fields of an object; a key that is no text is written in its display form. -/
def FlowFormat.fields (f : FlowFormat) : Fields → List String
  | [] => []
  | (k, v) :: fs => (f.mark k ++ flowText k.display ++ ": " ++ f.value v) :: f.fields fs

end

/-- A value as JSON. -/
def Json.print (v : Value) : String := jsonFlow.value v

/-- A field on a line of its own; the value of a marked key has a line to itself. -/
def Yaml.fieldLine (key : Scalar) (value : Value) : String :=
  yamlFlow.mark key ++ flowText key.display ++ (if yamlFlow.marks key then "\n" else "") ++ ": " ++
    yamlFlow.value value ++ "\n"

/-- A value as YAML. -/
def Yaml.print : Value → String
  | .object [] => "\x7b\x7d\n"
  | .list [] => "[]\n"
  | .object fields => String.join (fields.map fun f => fieldLine f.1 f.2)
  | .list items => String.join ((yamlFlow.items items).map fun s => "- " ++ s ++ "\n")
  | .scalar s => yamlFlow.scalar s ++ "\n...\n"
  | v => yamlFlow.value v ++ "\n"

end FormPress
