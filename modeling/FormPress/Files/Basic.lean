/-
  FormPress.Files.Basic

  The files that a run can see: what stands at each place, and what reading finds
  there. A path leads to a place part by part (`Files.locate`): everything before
  its last part must be a folder that may be searched, also in front of a double
  point. Whether a file stands at a path cannot always be said: the system may
  refuse to look (`Files.hasSome`). Line ends are made uniform when a file is read
  as text.
-/
import FormPress.Data.Table
import FormPress.Data.Written
import FormPress.Files.Path
import FormPress.Text.Half

namespace FormPress

/-! ## Entries -/

/-- What stands at a place. -/
inductive Entry where
  /-- a file with its bytes -/
  | file (content : ByteArray)
  /-- a file that cannot be read, and why -/
  | unreadable (reason : String)
  | folder
  /-- a folder that may not be searched, and why -/
  | closed (reason : String)
  /-- something that the system cannot look at, and why -/
  | barred (reason : String)
  deriving Inhabited

/-- A file with a text in it. -/
def Entry.ofText (s : String) : Entry := .file s.toUTF8

/-- A place: the names of the folders from the root on, and the last name. -/
abbrev Place := List String

/-- The entries by their place, and the folder from which relative paths are seen. That folder and
    those above it are always there. -/
structure Files where
  base : Path
  entries : Table Place Entry
  deriving Inhabited

/-! ## Faults -/

/-- Why a file could not be read or changed. -/
inductive FileFault where
  | absent
  | isFolder
  | belowFile
  /-- something is there already -/
  | taken
  | notText
  /-- no file can have the name -/
  | impossible
  /-- a name or a path has too many bytes -/
  | tooLong
  /-- a text to be written, or a name, has halves of characters -/
  | halfCharacters
  /-- the system refuses, and why -/
  | unreadable (reason : String)
  deriving Repr, DecidableEq, Inhabited

/-- The system's text for a fault at a path. -/
def FileFault.text (path : Path) : FileFault → String
  | absent => "[Errno 2] No such file or directory: " ++ quotedText path.text
  | isFolder => "[Errno 21] Is a directory: " ++ quotedText path.text
  | belowFile => "[Errno 20] Not a directory: " ++ quotedText path.text
  | taken => "[Errno 17] File exists: " ++ quotedText path.text
  | notText => "invalid text in " ++ path.text
  | impossible => "embedded null byte"
  | tooLong => "[Errno 36] File name too long: " ++ quotedText path.text
  | halfCharacters => "half a character in " ++ path.text
  | unreadable reason => reason

/-- Whether a path with the fault leads nowhere; with any other one the system refuses to say
    what stands there. -/
def FileFault.leadsNowhere : FileFault → Bool
  | absent | belowFile | impossible | halfCharacters => true
  | _ => false

namespace Entry

/-- Whether the entry is a file, readable or not. -/
def isFile : Entry → Bool
  | file _ | unreadable _ => true
  | _ => false

/-- Whether the entry is a folder, closed or not. -/
def isFolder : Entry → Bool
  | folder | closed _ => true
  | _ => false

/-- What keeps a path from leading on through the entry. -/
def barrier? : Entry → Option FileFault
  | folder => none
  | closed reason | barred reason => some (.unreadable reason)
  | file _ | unreadable _ => some .belowFile

end Entry

namespace Files

variable (files : Files)

/-! ## Finding -/

/-- What stands at a place. -/
def entryAt? (place : Place) : Option Entry :=
  if place.isPrefixOf files.base.parts then some .folder else files.entries.get? place

/-- The most bytes that a name can have. -/
def longestName : Nat := 255

/-- The most bytes that a path can have. -/
def longestPath : Nat := 4095

/-- The place that some more parts lead to from a place; all but the last part lead through
    folders. -/
def walk (place : Place) : List String → Except FileFault Place
  | [] =>
    match files.entryAt? place with
    | some (.barred reason) => .error (.unreadable reason)
    | _ => .ok place
  | part :: rest =>
    match files.entryAt? place with
    | none => .error .absent
    | some e =>
      match e.barrier? with
      | some fault => .error fault
      | none =>
        if longestName < part.utf8ByteSize then .error .tooLong
        else walk (Path.step place part) rest

/-- The place that a path leads to. -/
def locate (path : Path) : Except FileFault Place :=
  if path.isImpossible then .error .impossible
  else if Text.isUnnamable path.text then .error .halfCharacters
  else if longestPath < path.text.utf8ByteSize then .error .tooLong
  else files.walk [] (files.base.join path).parts

/-- A result where it is no fault if a path leads nowhere. -/
def orNowhere {α : Type} : Except FileFault α → Except FileFault (Option α)
  | .ok a => .ok (some a)
  | .error fault => if fault.leadsNowhere then .ok none else .error fault

/-- The place that a path leads to, if it leads to one; the system may refuse to say. -/
def reach (path : Path) : Except FileFault (Option Place) := orNowhere (files.locate path)

/-- Whether something of a kind stands at a path. This cannot be said of a path that is too long,
    nor of one that the system refuses to look at. -/
def hasSome (kind : Entry → Bool) (path : Path) : Except FileFault Bool :=
  (files.reach path).map fun place => (place.bind files.entryAt?).any kind

/-- Whether anything stands at a path. -/
def has (path : Path) : Except FileFault Bool := files.hasSome (fun _ => true) path

/-- Whether a file stands at a path. -/
def hasFile (path : Path) : Except FileFault Bool := files.hasSome Entry.isFile path

/-- Whether a folder stands at a path. -/
def hasFolder (path : Path) : Except FileFault Bool := files.hasSome Entry.isFolder path

/-- The bytes of a file. -/
def read (path : Path) : Except FileFault ByteArray :=
  match files.locate path with
  | .error fault => .error fault
  | .ok place =>
    match files.entryAt? place with
    | some (.file content) => .ok content
    | some (.unreadable reason) | some (.barred reason) => .error (.unreadable reason)
    | some .folder | some (.closed _) => .error .isFolder
    | none => .error .absent

/-! ## Changing -/

/-- Puts something at a place, whatever is there. -/
def set (place : Place) (e : Entry) : Files :=
  { files with entries := files.entries.put place e }

/-- Makes a folder where nothing stands yet. -/
def makeFolder (path : Path) : Except FileFault Files :=
  match files.locate path with
  | .error fault => .error fault
  | .ok place =>
    match files.entryAt? place with
    | some _ => .error .taken
    | none => .ok (files.set place .folder)

/-- Makes a folder; one that is there already is not a fault where `again` says so. -/
def makeFolderOnce (again : Bool) (path : Path) : Except FileFault Files :=
  match files.makeFolder path with
  | .ok files => .ok files
  | .error fault =>
    if again then
      match files.hasFolder path with
      | .ok there => if there then .ok files else .error fault
      | .error refusal => .error refusal
    else .error fault

/-- Makes a folder and those above it, for at most so many levels. -/
def makeFoldersFrom (again : Bool) : Nat → Files → Path → Except FileFault Files
  | 0, files, path => files.makeFolderOnce again path
  | levels + 1, files, path =>
    match files.makeFolderOnce again path with
    | .error .absent =>
      match makeFoldersFrom true levels files path.parent with
      | .ok files => files.makeFolderOnce again path
      | .error fault => .error fault
    | result => result

/-- Makes a folder and those above it. -/
def makeFolders (again : Bool) (path : Path) : Except FileFault Files :=
  makeFoldersFrom again path.parts.length files path

/-- Writes a file into a folder that is there. -/
def write (path : Path) (e : Entry) : Except FileFault Files :=
  match files.locate path with
  | .error fault => .error fault
  | .ok place =>
    if (files.entryAt? place).all Entry.isFile then .ok (files.set place e) else .error .isFolder

/-- Writes a text into a file, and says what went wrong; of a text with halves of characters
    nothing is written but the file is there. -/
def writeText (path : Path) (s : String) : Files × Option FileFault :=
  let broken := Text.hasHalf s
  match files.write path (.ofText (if broken then "" else s)) with
  | .ok files => (files, if broken then some .halfCharacters else none)
  | .error fault => (files, some fault)

/-- Writes a file and makes the folders above it. -/
def put (path : Path) (e : Entry) : Except FileFault Files :=
  match files.makeFolders true path.parent with
  | .error fault => .error fault
  | .ok files => files.write path e

/-- Takes away a file. -/
def remove (path : Path) : Except FileFault Files :=
  match files.locate path with
  | .error fault => .error fault
  | .ok place =>
    match files.entryAt? place with
    | some e =>
      if e.isFile then .ok { files with entries := files.entries.filter (·.1 != place) }
      else .error .isFolder
    | none => .error .absent

end Files

/-! ## Texts -/

/-- A text with its line ends made uniform: a return ends a line as well, and a return before a
    line feed is one end with it. -/
def uniformLines : List Char → List Char
  | '\r' :: '\n' :: s => '\n' :: uniformLines s
  | '\r' :: s => '\n' :: uniformLines s
  | c :: s => c :: uniformLines s
  | [] => []

/-- The content of a file as text with uniform line ends. -/
def Files.readText (files : Files) (path : Path) : Except FileFault String :=
  match files.read path with
  | .error fault => .error fault
  | .ok content =>
    match String.fromUTF8? content with
    | some s => .ok (String.ofList (uniformLines s.toList))
    | none => .error .notText

end FormPress
