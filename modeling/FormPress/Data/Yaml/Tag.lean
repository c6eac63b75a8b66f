/-
  FormPress.Data.Yaml.Tag

  Tags of YAML nodes. A tag is written in full between angles, or as a handle
  and the rest of its name; directives in front of a document say what its
  handles stand for.
-/
import FormPress.Data.Yaml.Cursor
import FormPress.Data.Json

namespace FormPress.Yaml

/-! ## Tags -/

/-- What a node is marked as. -/
inductive Tag where
  | null
  | bool
  | int
  | float
  | binary
  | timestamp
  | str
  | seq
  | map
  | omap
  | pairs
  | set
  /-- the key of objects to be merged -/
  | merge
  /-- the key of a default value -/
  | value
  | unknown
  deriving DecidableEq, Repr, Inhabited

/-- The beginning of the names of all known tags. -/
def Tag.family : String := "tag:yaml.org,2002:"

/-- The known tags by the rest of their names. -/
def Tag.known : List (String × Tag) := [
  ("null", .null), ("bool", .bool), ("int", .int), ("float", .float), ("binary", .binary),
  ("timestamp", .timestamp), ("str", .str), ("seq", .seq), ("map", .map), ("omap", .omap),
  ("pairs", .pairs), ("set", .set), ("merge", .merge), ("value", .value)]

/-- The tag of a full name. -/
def Tag.ofName (name : String) : Tag :=
  ((Tag.known.find? fun p => Tag.family ++ p.1 == name).map (·.2)).getD .unknown

/-- A tag as it is written: a handle, if there is one, and the rest of the name. -/
structure TagText where
  handle : Option String
  rest : String
  deriving DecidableEq, Repr, Inhabited

/-! ## Directives -/

/-- A line in front of a document. -/
inductive Directive where
  /-- the version of the format -/
  | version (major : Nat)
  /-- what a handle stands for -/
  | handle (name stands : String)
  | other
  deriving DecidableEq, Repr, Inhabited

/-- What the handles stand for. -/
abbrev Handles := List (String × String)

/-- What two handles stand for if no directive says else. -/
def standardHandles : Handles := [("!", "!"), ("!!", Tag.family)]

/-- The handles that the directives of one document declare, each once; the version is given at
    most once, and its first number is one. -/
def declared? : Bool → Handles → List Directive → Option Handles
  | _, handles, [] => some handles
  | versioned, handles, .version major :: rest =>
    if versioned || major != 1 then none else declared? true handles rest
  | versioned, handles, .handle name stands :: rest =>
    if handles.any (·.1 == name) then none
    else declared? versioned (handles ++ [(name, stands)]) rest
  | versioned, handles, .other :: rest => declared? versioned handles rest

/-- The handles of a document with the given directives. -/
def handlesOf? (directives : List Directive) : Option Handles :=
  (declared? false [] directives).map fun handles => handles ++ standardHandles

/-- The full name of a tag. -/
def TagText.name? (t : TagText) (handles : Handles) : Option String :=
  match t.handle with
  | none => some t.rest
  | some handle => (handles.find? (·.1 == handle)).map fun p => p.2 ++ t.rest

/-! ## Reading -/

/-- The characters of the names of tags. -/
def isUriChar (c : Char) : Bool := c.isAlphanum || "-;/?:@&=+$,_.!~*'()[]%".toList.contains c

/-- Bytes written by a percent sign and two hexadecimal digits each. -/
def percentBytes? : Nat → List UInt8 → Cursor → Option (List UInt8 × Cursor)
  | 0, acc, cur => some (acc.reverse, cur)
  | fuel + 1, acc, cur =>
    match cur.rest with
    | '%' :: a :: b :: _ => do
      let high ← Json.hexValue? a
      let low ← Json.hexValue? b
      percentBytes? fuel (UInt8.ofNat (high * 16 + low) :: acc) (cur.advance 3)
    | '%' :: _ => none
    | _ => some (acc.reverse, cur)

/-- The name of a tag from here on; `acc` holds its beginning in reverse. -/
def uriFrom? : Nat → List Char → Cursor → Option (List Char × Cursor)
  | 0, acc, cur => some (acc.reverse, cur)
  | fuel + 1, acc, cur =>
    match cur.rest with
    | '%' :: _ => do
      let (bytes, after) ← percentBytes? cur.left [] cur
      let text ← String.fromUTF8? ⟨bytes.toArray⟩
      uriFrom? fuel (text.toList.reverse ++ acc) after
    | c :: _ => if isUriChar c then uriFrom? fuel (c :: acc) cur.next else some (acc.reverse, cur)
    | [] => some (acc.reverse, cur)

/-- The name of a tag that starts here, which has at least one character. -/
def uri? (cur : Cursor) : Option (String × Cursor) := do
  let (chars, after) ← uriFrom? (cur.left + 1) [] cur
  guard (after.index != cur.index)
  some (String.ofList chars, after)

/-- The handle that starts here: an exclamation mark alone before a space, or a name between
    two. -/
def handle? (cur : Cursor) : Option (String × Cursor) :=
  match cur.rest with
  | '!' :: ' ' :: _ => some ("!", cur.next)
  | '!' :: s =>
    let name := s.takeWhile isNameChar
    if (s.drop name.length).head? == some '!' then
      some (String.ofList ('!' :: name ++ ['!']), cur.advance (name.length + 2))
    else none
  | _ => none

/-- Whether a second exclamation mark comes before the end of the word. -/
def hasHandle (s : List Char) : Bool :=
  (s.takeWhile fun c => !(c == ' ' || isBreak c)).contains '!'

/-- The tag that starts here with an exclamation mark; a blank follows it. -/
def tagAt? (cur : Cursor) : Option (TagText × Cursor) := do
  let (tag, after) ←
    match cur.rest.drop 1 with
    | '<' :: _ => do
      let (name, after) ← uri? (cur.advance 2)
      guard (after.rest.head? == some '>')
      some (TagText.mk none name, after.next)
    | s =>
      if separated s then some (TagText.mk none "!", cur.next)
      else if hasHandle s then do
        let (handle, after) ← handle? cur
        let (name, after) ← uri? after
        some (TagText.mk (some handle) name, after)
      else do
        let (name, after) ← uri? cur.next
        some (TagText.mk (some "!") name, after)
  guard (wordEnds after.rest)
  some (tag, after)

/-- A number of a version. -/
def versionNumber? (cur : Cursor) : Option (Nat × Cursor) :=
  let digits := cur.rest.takeWhile Json.isDigit
  if digits.isEmpty then none
  else some (Json.digitsValue digits, cur.advance digits.length)

/-- The version that a directive declares. -/
def versionAt? (cur : Cursor) : Option (Directive × Cursor) := do
  let (major, after) ← versionNumber? cur.skipSpaces
  guard (after.rest.head? == some '.')
  let (_, after) ← versionNumber? after.next
  guard (wordEnds after.rest)
  some (.version major, after)

/-- The handle that a directive declares. -/
def handleAt? (cur : Cursor) : Option (Directive × Cursor) := do
  let (handle, after) ← handle? cur.skipSpaces
  guard (after.rest.head? == some ' ')
  let (stands, after) ← uri? after.skipSpaces
  guard (wordEnds after.rest)
  some (.handle handle stands, after)

/-- The directive after a percent sign, and the end of its line. -/
def directiveAt? (cur : Cursor) : Option (Directive × Cursor) := do
  let name := cur.next.rest.takeWhile isNameChar
  let after := cur.advance (name.length + 1)
  guard (!name.isEmpty && wordEnds after.rest)
  let (directive, after) ←
    if name == "YAML".toList then versionAt? after
    else if name == "TAG".toList then handleAt? after
    else some (.other, after.lineEnd)
  let lineEnd := after.skipSpaces.skipComment
  guard (lineEnds lineEnd.rest)
  some (directive, lineEnd)

end FormPress.Yaml
