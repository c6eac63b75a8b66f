/-
  FormPress.Data.Yaml.Node

  The nodes of a YAML document: scalars, lists and objects, each with its tag
  and possibly a name, and aliases, which stand for a node named before. A name
  is given once. `Node.ofTokens` reads the nodes of the one document that a text
  may hold.
-/
import FormPress.Data.Yaml.Plain
import FormPress.Data.Yaml.Token

namespace FormPress.Yaml

/-! ## Nodes -/

/-- A node. -/
inductive Node where
  | scalar (name : Option String) (tag : Tag) (text : String)
  | list (name : Option String) (tag : Tag) (items : List Node)
  | object (name : Option String) (tag : Tag) (entries : List (Node × Node))
  | alias (name : String)
  deriving Repr, Inhabited

/-- The node where nothing stands. -/
def Node.empty : Node := .scalar none .null ""

/-- What stands in front of a node: its name, and the full name of its tag. -/
structure Properties where
  name : Option String
  tag : Option String

namespace Properties

/-- The tag of a collection; without one it is the usual tag. -/
def collectionTag (p : Properties) (usual : Tag) : Tag :=
  match p.tag with
  | none => usual
  | some "!" => usual
  | some name => .ofName name

/-- The tag of a scalar: its own one, or else what its text says if it has no quotes. A lone
    exclamation mark lets the text say it in any case. -/
def scalarTag (p : Properties) (text : String) (isPlain : Bool) : Tag :=
  match p.tag with
  | none => if isPlain then .ofPlain text else .str
  | some "!" => .ofPlain text
  | some name => .ofName name

/-- Whether nothing stands in front. -/
def isEmpty (p : Properties) : Bool := p.name.isNone && p.tag.isNone

end Properties

/-! ## Sources -/

/-- The tokens that are still to be read, what the handles of tags stand for, and the names given
    so far. -/
structure Source where
  tokens : List Token
  handles : Handles
  names : List String

namespace Source

/-- The fault of a token that cannot stand here. -/
def refuse {α : Type} (src : Source) : Except DataFault α :=
  match src.tokens with
  | .broken f :: _ => .error f
  | _ => .error .malformed

/-- The source without its first token. -/
def skip (src : Source) : Source := { src with tokens := src.tokens.drop 1 }

/-- Whether one of some tokens stands here. -/
def at? (src : Source) (kinds : List Token) : Bool := src.tokens.head?.any kinds.contains

/-- Notes the name of a node. -/
def note (src : Source) (p : Properties) : Except DataFault Source :=
  match p.name with
  | none => .ok src
  | some name =>
    if src.names.contains name then .error .malformed
    else .ok { src with names := name :: src.names }

/-- The full name of a tag, whose handle must stand for something. -/
def tagName (src : Source) (t : TagText) : Except DataFault String :=
  match t.name? src.handles with
  | some name => .ok name
  | none => .error .malformed

/-- The name and the tag in front of a node, in either order. -/
def properties (src : Source) : Except DataFault (Properties × Source) :=
  match src.tokens with
  | .anchor name :: .tag t :: rest => do
    let tag ← src.tagName t
    .ok (⟨some name, some tag⟩, { src with tokens := rest })
  | .tag t :: .anchor name :: rest => do
    let tag ← src.tagName t
    .ok (⟨some name, some tag⟩, { src with tokens := rest })
  | .anchor name :: rest => .ok (⟨some name, none⟩, { src with tokens := rest })
  | .tag t :: rest => do
    let tag ← src.tagName t
    .ok (⟨none, some tag⟩, { src with tokens := rest })
  | _ => .ok (⟨none, none⟩, src)

end Source

/-! ## Reading nodes -/

/-- A part of the document and the source after it. -/
abbrev Parsed (α : Type) := Except DataFault (α × Source)

namespace Parsed

/-- An empty node before one of some tokens, else what `read` finds. -/
def orEmpty (stops : List Token) (read : Source → Parsed Node) (src : Source) : Parsed Node :=
  if src.at? stops then .ok (.empty, src) else read src

end Parsed

/-- The tokens before which a part of a block object is empty. -/
def entryStops : List Token := [.key, .value, .blockEnd]

mutual

/-- A node inside at most `levels` more collections. A block collection may start only where
    `inBlock` says so, a list without indentation of its own only where `hanging` does. -/
def readNode : Nat → Nat → Bool → Bool → Source → Parsed Node
  | 0, _, _, _, src => src.refuse
  | fuel + 1, levels, inBlock, hanging, src =>
    match src.tokens with
    | .alias name :: _ =>
      if src.names.contains name then .ok (.alias name, src.skip) else .error .malformed
    | _ =>
      match src.properties with
      | .error f => .error f
      | .ok (props, src) => readContent fuel levels inBlock hanging props src

/-- A node after its name and tag. -/
def readContent : Nat → Nat → Bool → Bool → Properties → Source → Parsed Node
  | 0, _, _, _, _, src => src.refuse
  | fuel + 1, levels, inBlock, hanging, props, src =>
    match src.tokens with
    | .scalar text isPlain :: _ =>
      match src.note props with
      | .error f => .error f
      | .ok src => .ok (.scalar props.name (props.scalarTag text isPlain) text, src.skip)
    | t :: _ =>
      let isCollection := t == .openList || t == .openObject ||
        (inBlock && (t == .blockList || t == .blockObject)) || (hanging && t == .dash)
      if isCollection then
        match src.note props with
        | .error f => .error f
        | .ok src =>
          match levels with
          | 0 => .error .tooDeep
          | levels + 1 => readCollection fuel levels t props src
      else if props.isEmpty then src.refuse
      else
        match src.note props with
        | .error f => .error f
        | .ok src => .ok (.scalar props.name (props.scalarTag "" true) "", src)
    | [] =>
      if props.isEmpty then src.refuse
      else
        match src.note props with
        | .error f => .error f
        | .ok src => .ok (.scalar props.name (props.scalarTag "" true) "", src)

/-- A collection that starts with a token. -/
def readCollection : Nat → Nat → Token → Properties → Source → Parsed Node
  | 0, _, _, _, src => src.refuse
  | fuel + 1, levels, t, props, src =>
    let list (r : Parsed (List Node)) : Parsed Node :=
      r.map fun (items, src) => (.list props.name (props.collectionTag .seq) items, src)
    let object (r : Parsed (List (Node × Node))) : Parsed Node :=
      r.map fun (entries, src) => (.object props.name (props.collectionTag .map) entries, src)
    match t with
    | .openList => list (readFlowItems fuel levels true [] src.skip)
    | .openObject => object (readFlowEntries fuel levels true [] src.skip)
    | .blockList => list (readItems fuel levels [] src.skip)
    | .blockObject => object (readEntries fuel levels [] src.skip)
    | .dash => list (readHangingItems fuel levels [] src)
    | _ => src.refuse

/-- The items of a block list; `acc` holds the earlier ones in reverse. -/
def readItems : Nat → Nat → List Node → Source → Parsed (List Node)
  | 0, _, _, src => src.refuse
  | fuel + 1, levels, acc, src =>
    match src.tokens with
    | .dash :: _ =>
      match Parsed.orEmpty [.dash, .blockEnd] (readNode fuel levels true false) src.skip with
      | .error f => .error f
      | .ok (item, src) => readItems fuel levels (item :: acc) src
    | .blockEnd :: _ => .ok (acc.reverse, src.skip)
    | _ => src.refuse

/-- The items of a list as far indented as the object that it stands in. -/
def readHangingItems : Nat → Nat → List Node → Source → Parsed (List Node)
  | 0, _, _, src => src.refuse
  | fuel + 1, levels, acc, src =>
    match src.tokens with
    | .dash :: _ =>
      match Parsed.orEmpty (.dash :: entryStops) (readNode fuel levels true false) src.skip with
      | .error f => .error f
      | .ok (item, src) => readHangingItems fuel levels (item :: acc) src
    | _ => .ok (acc.reverse, src)

/-- The entries of a block object; `acc` holds the earlier ones in reverse. -/
def readEntries : Nat → Nat → List (Node × Node) → Source → Parsed (List (Node × Node))
  | 0, _, _, src => src.refuse
  | fuel + 1, levels, acc, src =>
    match src.tokens with
    | .key :: _ =>
      match Parsed.orEmpty entryStops (readNode fuel levels true true) src.skip with
      | .error f => .error f
      | .ok (key, src) =>
        match readValue fuel levels true entryStops src with
        | .error f => .error f
        | .ok (value, src) => readEntries fuel levels ((key, value) :: acc) src
    | .blockEnd :: _ => .ok (acc.reverse, src.skip)
    | _ => src.refuse

/-- The value after a key: what follows the colon, if there is one. -/
def readValue : Nat → Nat → Bool → List Token → Source → Parsed Node
  | 0, _, _, _, src => src.refuse
  | fuel + 1, levels, inBlock, stops, src =>
    match src.tokens with
    | .value :: _ => Parsed.orEmpty stops (readNode fuel levels inBlock inBlock) src.skip
    | _ => .ok (.empty, src)

/-- The entry after the mark of a key in a flow collection. -/
def readFlowEntry : Nat → Nat → List Token → Source → Parsed (Node × Node)
  | 0, _, _, src => src.refuse
  | fuel + 1, levels, stops, src =>
    match Parsed.orEmpty (.value :: stops) (readNode fuel levels false false) src.skip with
    | .error f => .error f
    | .ok (key, src) =>
      match readValue fuel levels false stops src with
      | .error f => .error f
      | .ok (value, src) => .ok ((key, value), src)

/-- The items of a list in brackets; `first` says that none has come yet. An entry in it is an
    object of its own. -/
def readFlowItems : Nat → Nat → Bool → List Node → Source → Parsed (List Node)
  | 0, _, _, _, src => src.refuse
  | fuel + 1, levels, first, acc, src =>
    if src.at? [.closeList] then .ok (acc.reverse, src.skip)
    else if !first && !src.at? [.comma] then src.refuse
    else
      let src := if first then src else src.skip
      match src.tokens with
      | .closeList :: _ => .ok (acc.reverse, src.skip)
      | .key :: _ =>
        match levels with
        | 0 => .error .tooDeep
        | inner + 1 =>
          match readFlowEntry fuel inner [.comma, .closeList] src with
          | .error f => .error f
          | .ok (entry, src) =>
            readFlowItems fuel levels false (.object none .map [entry] :: acc) src
      | _ =>
        match readNode fuel levels false false src with
        | .error f => .error f
        | .ok (item, src) => readFlowItems fuel levels false (item :: acc) src

/-- The entries of an object in braces; one without the mark of a key has no value. -/
def readFlowEntries : Nat → Nat → Bool → List (Node × Node) → Source →
    Parsed (List (Node × Node))
  | 0, _, _, _, src => src.refuse
  | fuel + 1, levels, first, acc, src =>
    if src.at? [.closeObject] then .ok (acc.reverse, src.skip)
    else if !first && !src.at? [.comma] then src.refuse
    else
      let src := if first then src else src.skip
      match src.tokens with
      | .closeObject :: _ => .ok (acc.reverse, src.skip)
      | .key :: _ =>
        match readFlowEntry fuel levels [.comma, .closeObject] src with
        | .error f => .error f
        | .ok (entry, src) => readFlowEntries fuel levels false (entry :: acc) src
      | _ =>
        match readNode fuel levels false false src with
        | .error f => .error f
        | .ok (key, src) => readFlowEntries fuel levels false ((key, .empty) :: acc) src

end

/-! ## Documents -/

/-- How deeply collections may stand in each other. -/
def depthLimit : Nat := 488

/-- The node of a document without its marks. -/
def readRoot (tokens : List Token) (handles : Handles) : Parsed Node :=
  readNode (4 * tokens.length + 8) depthLimit true false ⟨tokens, handles, []⟩

/-- The directives in front, and the tokens after them. -/
def directivesAt : List Token → List Directive × List Token
  | .directive d :: rest =>
    let (more, after) := directivesAt rest
    (d :: more, after)
  | tokens => ([], tokens)

/-- Whether a token ends a document before its node. -/
def endsDocument : Token → Bool
  | .directive _ => true
  | .documentStart => true
  | .documentEnd => true
  | _ => false

/-- The node of a document with a mark at its start, after its directives. -/
def readMarked (tokens : List Token) : Parsed Node :=
  let (directives, tokens) := directivesAt tokens
  match handlesOf? directives, tokens with
  | some handles, .documentStart :: rest =>
    if (rest.head?.map endsDocument).getD true then .ok (.empty, ⟨rest, handles, []⟩)
    else readRoot rest handles
  | _, tokens => Source.refuse ⟨tokens, [], []⟩

/-- Whether nothing but marks of the end follows. -/
def onlyEndFollows (src : Source) : Except DataFault Unit :=
  let rest := src.tokens.dropWhile (· == .documentEnd)
  if rest.isEmpty then .ok () else Source.refuse { src with tokens := rest }

/-- The node of the document that the tokens make, if there is one. -/
def Node.ofTokens (tokens : List Token) : Except DataFault (Option Node) := do
  match tokens with
  | [] => .ok none
  | t :: _ =>
    let marked := match t with
      | .directive _ => true
      | .documentStart => true
      | _ => false
    let (node, src) ← if marked then readMarked tokens else readRoot tokens standardHandles
    onlyEndFollows src
    .ok (some node)

end FormPress.Yaml
