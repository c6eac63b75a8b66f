/-
  FormPress.Data.Yaml.Read

  The value of a YAML text (`Yaml.read`). Every node is built into a value
  together with the fault that is met first on it (`Built`). Faults are met by
  depth, collections being filled only after everything around them has been
  begun, and at one depth in the order of the text. An alias has the value of
  the node that it names; inside of that node it is a mark for it.
-/
import FormPress.Data.Yaml.Node
import FormPress.Data.Yaml.Scalar

namespace FormPress.Yaml

/-! ## Built nodes -/

/-- A fault, and how many levels below a node it is met. -/
structure Flaw where
  depth : Nat
  fault : DataFault

namespace Flaw

/-- Of two flaws the one that is met first: the higher one, of equal depth the earlier one. -/
def first : Option Flaw → Option Flaw → Option Flaw
  | none, b => b
  | a, none => a
  | some a, some b => if b.depth < a.depth then some b else some a

/-- The flaw of a part as one of the whole. -/
def below (f : Option Flaw) : Option Flaw := f.map fun f => { f with depth := f.depth + 1 }

/-- The first of several flaws. -/
def firstOf (fs : List (Option Flaw)) : Option Flaw := fs.foldl first none

/-- A flaw of a node itself. -/
def here (f : DataFault) : Option Flaw := some ⟨0, f⟩

/-- A flaw that is met when a collection is filled. -/
def inside (f : DataFault) : Option Flaw := some ⟨1, f⟩

end Flaw

mutual

/-- A node as a value: its tag, the value, the first flaw, and what else can be asked of it. -/
inductive Built where
  | mk (tag : Tag) (value : Value) (flaw : Option Flaw) (content : Content)

/-- What a built node is made of. -/
inductive Content where
  /-- the text of a scalar; none of an alias inside of the node that it names -/
  | text (s : Option String)
  | items (items : List Built)
  /-- the entries, those of merged objects first; whether a key was marked to merge or as a
      default, what the default is, and whether something was to be merged that cannot be -/
  | entries (entries : List (Built × Built)) (marked : Bool) (default : Option String)
      (unmergeable : Bool)

end

namespace Built

/-- The tag. -/
def tag : Built → Tag
  | mk t _ _ _ => t

/-- The value. -/
def value : Built → Value
  | mk _ v _ _ => v

/-- The first flaw. -/
def flaw : Built → Option Flaw
  | mk _ _ f _ => f

/-- What the node is made of. -/
def content : Built → Content
  | mk _ _ _ c => c

/-- A flawed node. -/
def flawed (t : Tag) (f : Option Flaw) (c : Content) : Built := mk t .null f c

/-- The text that stands for a node where a scalar is needed: of an object its default. -/
def text? (b : Built) : Option String :=
  match b.content with
  | .text s => s
  | .items _ => none
  | .entries _ _ default _ => default

end Built

/-! ## Merging -/

/-- What an object takes over: entries, or nothing where this cannot be. -/
abbrev Merged := Option (List (Built × Built))

/-- The entries that a built object gives away. -/
def givenBy (b : Built) : Merged :=
  match b.content with
  | .entries entries _ _ unmergeable => if unmergeable then none else some entries
  | .text none => some []
  | _ => none

/-- The entries that the value of a merging key brings in: those of one object, or those of
    several, of which the last one comes first. -/
def mergedBy (b : Built) : Merged :=
  match b.content with
  | .items items => items.reverse.foldl (fun acc i => do some ((← acc) ++ (← givenBy i))) (some [])
  | _ => givenBy b

/-! ## Filling collections -/

/-- The flaw of a key: its own one, or that it cannot be one. -/
def keyFlaw (key : Built) : Option Flaw :=
  Flaw.first key.flaw (if key.value.key?.isSome then none else Flaw.here .malformed)

/-- The first flaw of entries. -/
def entriesFlaw (entries : List (Built × Built)) : Option Flaw :=
  Flaw.firstOf (entries.map fun e => Flaw.first (keyFlaw e.1) e.2.flaw)

/-- The object with some entries: of two equal keys the later value is kept in the place of the
    first. -/
def fieldsOf (entries : List (Built × Built)) : Fields :=
  entries.foldl
    (fun acc e =>
      match e.1.value.key? with
      | some k => Fields.set acc k e.2.value
      | none => acc)
    []

/-- The one entry of an item of an ordered object. -/
def onlyField? (b : Built) : Option (Built × Built) :=
  match b.content with
  | .entries [entry] false _ false => some entry
  | _ => none

/-- The pairs of an ordered object, and the flaw that is met first on them. -/
def pairsOf (items : List Built) : List Value × Option Flaw :=
  let flaw := Flaw.firstOf (items.map fun i =>
    match onlyField? i with
    | some (k, v) => Flaw.first k.flaw v.flaw
    | none => Flaw.here .malformed)
  let pairs := items.filterMap fun i => (onlyField? i).map fun (k, v) => .pair k.value v.value
  (pairs, flaw)

/-- What a tag makes of a text that stands for a node. -/
def scalarOf (tag : Tag) (text : Option String) (content : Content) : Built :=
  match text.bind tag.scalar? with
  | some (.ok v) => .mk tag (.scalar v) none content
  | some (.error f) => .flawed tag (Flaw.here f) content
  | none => .flawed tag (Flaw.here .malformed) content

/-- Whether a tag is one of collections, whose kind is looked at only when they are filled. -/
def Tag.isCollection (tag : Tag) : Bool := [.seq, .map, .omap, .pairs, .set].contains tag

/-- A scalar under its tag. -/
def buildScalar (tag : Tag) (text : String) : Built :=
  let content := Content.text (some text)
  if tag.isCollection then .flawed tag (Flaw.inside .malformed) content
  else scalarOf tag (some text) content

/-- A list under its tag. -/
def buildList (tag : Tag) (items : List Built) : Built :=
  let content := Content.items items
  let pairs := pairsOf items
  if tag == .seq then
    .mk tag (.list (items.map Built.value)) (Flaw.below (Flaw.firstOf (items.map Built.flaw))) content
  else if tag == .omap || tag == .pairs then .mk tag (.list pairs.1) (Flaw.below pairs.2) content
  else if tag.isCollection then .flawed tag (Flaw.inside .malformed) content
  else scalarOf tag none content

/-- A key that is marked as a default is a text as a key. -/
def keyOf (key : Built) : Built :=
  if key.tag == .value then scalarOf .str key.text? key.content else key

/-- The entries of an object with the merged ones in front, as the content of a node. -/
def contentOf (entries : List (Built × Built)) : Content :=
  let merged := entries.foldl
    (fun acc e => if e.1.tag == .merge then do some ((← acc) ++ (← mergedBy e.2)) else acc) (some [])
  let own := (entries.filter fun e => e.1.tag != .merge).map fun e => (keyOf e.1, e.2)
  let marked := entries.any fun e => e.1.tag == .merge || e.1.tag == .value
  let default := (entries.find? fun e => e.1.tag == .value).bind fun e => e.2.text?
  .entries (merged.getD [] ++ own) marked default merged.isNone

/-- An object under its tag, of which a time cannot be made. -/
def buildObject (tag : Tag) (entries : List (Built × Built)) : Built :=
  let content := contentOf entries
  match content with
  | .entries all _ default unmergeable =>
    let flaw := Flaw.below (if unmergeable then Flaw.here .malformed else entriesFlaw all)
    let fields := fieldsOf all
    if tag == .map then .mk tag (.object fields) flaw content
    else if tag == .set then .mk tag (.set (fields.map (·.1))) flaw content
    else if tag.isCollection then .flawed tag (Flaw.inside .malformed) content
    else if tag == .timestamp && default.isSome then .flawed tag (Flaw.here .notScalar) content
    else scalarOf tag default content
  | _ => .flawed tag (Flaw.here .malformed) content

/-! ## Building -/

/-- The nodes built so far by name, the named nodes around this place with whether they are
    lists, and the names of those that hold themselves. -/
structure Progress where
  done : List (String × Built)
  around : List (String × Bool)
  rings : List String

/-- A step of building. -/
abbrev Building (α : Type) := StateM Progress α

/-- The node of an alias: the built one of that name, or a mark for the one around this place. -/
def aliased (name : String) : Building Built := do
  let p ← get
  match p.done.find? (·.1 == name) with
  | some found => return found.2
  | none =>
    let isList := (p.around.find? (·.1 == name)).any (·.2)
    set { p with rings := name :: p.rings }
    return .mk .unknown (.scalar (.ring name isList)) none (.text none)

/-- Enters a node. -/
def enter (name : Option String) (isList : Bool) : Building Unit :=
  modify fun p =>
    match name with
    | some n => { p with around := (n, isList) :: p.around }
    | none => p

/-- Leaves a node that has been built. -/
def leave (name : Option String) (b : Built) : Building Built := do
  match name with
  | some n => modify fun p => { p with done := (n, b) :: p.done }
  | none => pure ()
  return b

mutual

/-- Builds a node. -/
def build : Node → Building Built
  | .alias name => aliased name
  | .scalar name tag text => do
    enter name false
    leave name (buildScalar tag text)
  | .list name tag items => do
    enter name true
    let items ← buildItems items
    leave name (buildList tag items)
  | .object name tag entries => do
    enter name false
    let entries ← buildEntries entries
    leave name (buildObject tag entries)

/-- Builds the items of a list. -/
def buildItems : List Node → Building (List Built)
  | [] => return []
  | n :: rest => do
    let b ← build n
    let others ← buildItems rest
    return b :: others

/-- Builds the entries of an object. -/
def buildEntries : List (Node × Node) → Building (List (Built × Built))
  | [] => return []
  | (k, v) :: rest => do
    let key ← build k
    let value ← build v
    let others ← buildEntries rest
    return (key, value) :: others

end

/-! ## Texts -/

/-- Whether a character may stand in a YAML text. -/
def isAllowed (c : Char) : Bool :=
  let n := c.toNat
  n == 9 || n == 10 || n == 13 || (32 ≤ n && n ≤ 126) || n == 0x85 ||
    (0xA0 ≤ n && n ≤ 0xD7FF) || (0xE000 ≤ n && n ≤ 0xFFFD) || 0x10000 ≤ n

/-- The value of a node; collections that hold themselves are unrolled for some levels. -/
def valueOf (levels : Nat) (n : Node) : Except DataFault Value :=
  let (built, progress) := (build n).run ⟨[], [], []⟩
  match built.flaw with
  | some f => .error f.fault
  | none =>
    if progress.rings.isEmpty then .ok built.value
    else .ok (built.value.unroll (progress.done.map fun p => (p.1, p.2.value)) levels)

/-- Reads a text that holds one document; a text without one is null. Collections that hold
    themselves are unrolled for some levels. -/
def read (text : String) (levels : Nat := 8) : Except DataFault Value := do
  let chars := text.toList
  let chars := if chars.head? == some '\uFEFF' then chars.drop 1 else chars
  if !chars.all isAllowed then .error .malformed
  else
    match ← Node.ofTokens (Token.ofText chars) with
    | none => .ok .null
    | some n => valueOf levels n

end FormPress.Yaml
