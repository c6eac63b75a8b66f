/-
  FormPress.Files.Path

  Paths of files: the slashes in front, and the parts. Empty parts and single
  points are dropped when a path is read, so two spellings that differ only in
  them are one path; double points stay until the path is resolved
  (`Path.resolve`). Two slashes in front are kept apart from one, more are one.
-/
import FormPress.Text.Case

namespace FormPress

/-- A path; a relative one has no slashes in front. -/
structure Path where
  slashes : Nat
  parts : List String
  deriving DecidableEq, Repr, Inhabited

namespace Path

/-! ## Reading and writing -/

/-- Whether the path starts at the root. -/
def absolute (p : Path) : Bool := p.slashes != 0

/-- The pieces of a text between slashes. -/
def pieces : List Char → List (List Char)
  | [] => [[]]
  | '/' :: s => [] :: pieces s
  | c :: s =>
    match pieces s with
    | [] => [[c]]
    | p :: ps => (c :: p) :: ps

/-- Whether a piece names a part of a path. -/
def isPart (piece : List Char) : Bool := piece != [] && piece != ['.']

/-- The slashes in front of a text that make a difference. -/
def slashesOf (s : List Char) : Nat :=
  let n := (s.takeWhile (· == '/')).length
  if 2 < n then 1 else n

/-- The path that a text names. -/
def ofText (s : String) : Path :=
  { slashes := slashesOf s.toList
    parts := ((pieces s.toList).filter isPart).map String.ofList }

/-- The text of a path; the empty relative path is a point. -/
def text (p : Path) : String :=
  if p.absolute then String.ofList (List.replicate p.slashes '/') ++ "/".intercalate p.parts
  else if p.parts.isEmpty then "."
  else "/".intercalate p.parts

/-! ## Parts -/

/-- The last part, empty where there is none. -/
def name (p : Path) : String := p.parts.getLast?.getD ""

/-- The path of the folder that holds the path. -/
def parent (p : Path) : Path := { p with parts := p.parts.dropLast }

/-- The ending of a name from its last point on; a point in front or at the end starts none. -/
def ending (name : List Char) : List Char :=
  let afterPoint := (name.reverse.takeWhile (· != '.')).reverse
  let before := name.length - afterPoint.length
  if 1 < before && !afterPoint.isEmpty then '.' :: afterPoint else []

/-- The ending of the last part in small letters. -/
def suffix (p : Path) : String := Text.lower (String.ofList (ending p.name.toList))

/-- Whether a part holds the character of number zero, which no file has in its name. -/
def isImpossible (p : Path) : Bool := p.parts.any fun part => part.toList.contains '\x00'

/-! ## Joining -/

/-- A path seen from a folder: an absolute one stays itself. -/
def join (folder p : Path) : Path :=
  if p.absolute then p else { folder with parts := folder.parts ++ p.parts }

/-- Goes down into a part, or up for a double point; above the root is the root. -/
def step (parts : List String) (part : String) : List String :=
  if part == ".." then parts.dropLast else parts ++ [part]

/-- The absolute path without double points, seen from the folder `base`. -/
def resolve (base p : Path) : Path :=
  { slashes := 1, parts := (base.join p).parts.foldl step [] }

end Path

end FormPress
