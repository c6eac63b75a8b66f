/-
  FormPress.Data.Yaml.Token

  The tokens of a YAML text. Indentation becomes tokens of its own, which open
  and close block collections. A key without a question mark is found out only
  at its colon: the place where it began is kept (`PendingKey`), and its token is
  put there afterwards. Such a key stands on one line and has at most
  `keyLength` characters.
-/
import FormPress.Data.Yaml.Block
import FormPress.Data.Yaml.Tag

namespace FormPress.Yaml

/-! ## Tokens -/

/-- A token. -/
inductive Token where
  | directive (d : Directive)
  | documentStart
  | documentEnd
  | blockList
  | blockObject
  | blockEnd
  | openList
  | closeList
  | openObject
  | closeObject
  /-- the comma in a flow collection -/
  | comma
  /-- the dash of an item of a block list -/
  | dash
  | key
  | value
  | alias (name : String)
  | anchor (name : String)
  | tag (t : TagText)
  | scalar (text : String) (isPlain : Bool)
  /-- the text cannot be read further -/
  | broken (fault : DataFault)
  deriving DecidableEq, Repr, Inhabited

/-- A place at which a key may have begun. -/
structure PendingKey where
  /-- how many brackets are open there -/
  level : Nat
  /-- how many tokens are before it -/
  before : Nat
  /-- whether nothing but a key can stand there -/
  required : Bool
  index : Nat
  line : Nat
  column : Nat

/-- The text that is still to be read, and what is known of the text before it. -/
structure Scan where
  cur : Cursor
  /-- the tokens so far, the last one first -/
  tokens : List Token
  /-- how many tokens there are -/
  count : Nat
  /-- how many brackets are open -/
  level : Nat
  /-- the column of the innermost block collection, minus one outside of all -/
  indent : Int
  /-- the columns of the block collections around it -/
  outer : List Int
  /-- whether a key may begin here -/
  keyAllowed : Bool
  pending : List PendingKey

namespace Scan

/-- Before a text. -/
def start (s : List Char) : Scan := ⟨.start s, [], 0, 0, -1, [], true, []⟩

/-- The most characters of a key, with what is between it and its colon. -/
def keyLength : Nat := 1024

/-- Adds a token. -/
def push (s : Scan) (t : Token) : Scan := { s with tokens := t :: s.tokens, count := s.count + 1 }

/-- Adds a token where there were only `before` tokens. -/
def insert (s : Scan) (before : Nat) (t : Token) : Scan :=
  let later := s.count - before
  { s with tokens := s.tokens.take later ++ t :: s.tokens.drop later, count := s.count + 1 }

/-! ## Indentation -/

/-- Closes the block collections that are indented more than a column. -/
def closeTo (column : Int) (s : Scan) : List Int → Scan
  | [] => s
  | around :: rest =>
    if column < s.indent then
      closeTo column { s.push .blockEnd with indent := around, outer := rest } rest
    else s

/-- Closes the block collections that end at a column; brackets keep them all open. -/
def unindent (s : Scan) (column : Int) : Scan :=
  if s.level == 0 then closeTo column s s.outer else s

/-- Opens a block collection at a column that is indented more than the innermost one. The token
    goes where there were `before` tokens. -/
def indentTo (s : Scan) (before column : Nat) (opening : Token) : Scan :=
  if s.indent < column then
    { s.insert before opening with indent := column, outer := s.indent :: s.outer }
  else s

/-! ## Pending keys -/

/-- Whether a pending key is out of reach of this place. -/
def isStale (s : Scan) (k : PendingKey) : Bool :=
  k.line != s.cur.line || keyLength < s.cur.index - k.index

/-- Gives up the pending keys that are out of reach. -/
def dropStale? (s : Scan) : Option Scan :=
  if s.pending.any fun k => s.isStale k && k.required then none
  else some { s with pending := s.pending.filter fun k => !s.isStale k }

/-- Gives up the pending key among the brackets open here. -/
def dropKey? (s : Scan) : Option Scan :=
  if s.pending.any fun k => k.level == s.level && k.required then none
  else some { s with pending := s.pending.filter fun k => k.level != s.level }

/-- Keeps this place as one where a key may have begun. -/
def keepKey? (s : Scan) : Option Scan :=
  if s.keyAllowed then do
    let required := s.level == 0 && s.indent == s.cur.column
    let s ← s.dropKey?
    some { s with pending :=
      ⟨s.level, s.count, required, s.cur.index, s.cur.line, s.cur.column⟩ :: s.pending }
  else some s

/-! ## Single tokens -/

/-- A directive, or a mark between documents: everything open is closed. -/
def atDocument? (s : Scan) (t : Token) (after : Cursor) : Option Scan := do
  let s ← (s.unindent (-1)).dropKey?
  some { s.push t with keyAllowed := false, cur := after }

/-- An opening bracket. -/
def atOpening? (s : Scan) (t : Token) : Option Scan := do
  let s ← s.keepKey?
  some { s.push t with level := s.level + 1, keyAllowed := true, cur := s.cur.next }

/-- A closing bracket. -/
def atClosing? (s : Scan) (t : Token) : Option Scan := do
  let s ← s.dropKey?
  guard (s.level != 0)
  some { s.push t with level := s.level - 1, keyAllowed := false, cur := s.cur.next }

/-- A comma. -/
def atComma? (s : Scan) : Option Scan := do
  let s ← s.dropKey?
  some { s.push .comma with keyAllowed := true, cur := s.cur.next }

/-- Opens the block collection that a mark at this place begins, where one may begin. -/
def opened? (s : Scan) (opening : Token) : Option Scan :=
  if s.level != 0 then some s
  else if s.keyAllowed then some (s.indentTo s.count s.cur.column opening)
  else none

/-- The dash of an item. -/
def atDash? (s : Scan) : Option Scan := do
  let s ← s.opened? .blockList
  let s ← s.dropKey?
  some { s.push .dash with keyAllowed := true, cur := s.cur.next }

/-- The question mark of a key. -/
def atKey? (s : Scan) : Option Scan := do
  let s ← s.opened? .blockObject
  let s ← s.dropKey?
  some { s.push .key with keyAllowed := s.level == 0, cur := s.cur.next }

/-- The colon of a value, after a pending key or without one. -/
def atValue? (s : Scan) : Option Scan :=
  match s.pending.find? fun k => k.level == s.level with
  | some k =>
    let s := { s with pending := s.pending.filter fun k => k.level != s.level, keyAllowed := false }
    let s := s.insert k.before .key
    let s := if s.level == 0 then s.indentTo k.before k.column .blockObject else s
    some { s.push .value with cur := s.cur.next }
  | none => do
    let s ← s.opened? .blockObject
    let s ← s.dropKey?
    some { s.push .value with keyAllowed := s.level == 0, cur := s.cur.next }

/-- A token that a key may begin with. -/
def atWord? (s : Scan) (t : Token) (after : Cursor) : Option Scan := do
  let s ← s.keepKey?
  some { s.push t with keyAllowed := false, cur := after }

/-- The name after a star or an ampersand. -/
def nameAt? (cur : Cursor) : Option (String × Cursor) :=
  let name := cur.next.rest.takeWhile isNameChar
  let after := cur.advance (name.length + 1)
  let ended := separated after.rest || after.rest.head?.any fun c => "?:,]\x7d%@\x60".toList.contains c
  if name.isEmpty || !ended then none else some (String.ofList name, after)

/-- A scalar set off by indentation. -/
def atBlockScalar? (s : Scan) : Option Scan := do
  let s ← s.dropKey?
  let (text, after) ← blockScalar? s.indent s.cur
  some { s.push (.scalar text false) with keyAllowed := true, cur := after }

/-- An unquoted scalar. -/
def atPlain? (s : Scan) : Option Scan := do
  let s ← s.keepKey?
  let plain := plainAt (s.level != 0) (s.indent + 1).toNat s.cur
  some { s.push (.scalar (String.ofList plain.text) true) with
    keyAllowed := plain.brokeLine, cur := plain.after }

/-- A scalar in quotes. -/
def atQuoted (s : Scan) : Except DataFault Scan :=
  match s.keepKey? with
  | none => .error .malformed
  | some s =>
    match quotedAt s.cur with
    | .error f => .error f
    | .ok (text, after) =>
      .ok { s.push (.scalar (String.ofList text) false) with keyAllowed := false, cur := after }

/-! ## The whole text -/

/-- Skips what is between tokens; outside of brackets a key may begin on a new line. -/
def skipGap (s : Scan) : Scan :=
  let (cur, broke) := s.cur.skipGap
  { s with cur := cur, keyAllowed := s.keyAllowed || (broke && s.level == 0) }

/-- The token that starts with a character, and the text after it. -/
def token (s : Scan) (c : Char) (rest : List Char) : Except DataFault Scan :=
  let inFlow := s.level != 0
  let orMalformed (found : Option Scan) : Except DataFault Scan :=
    match found with
    | some s => .ok s
    | none => .error .malformed
  if c == '%' && s.cur.column == 0 then
    orMalformed (directiveAt? s.cur >>= fun (d, after) => s.atDocument? (.directive d) after)
  else if s.cur.atMark '-' then orMalformed (s.atDocument? .documentStart (s.cur.advance 3))
  else if s.cur.atMark '.' then orMalformed (s.atDocument? .documentEnd (s.cur.advance 3))
  else if c == '[' then orMalformed (s.atOpening? .openList)
  else if c == '\x7b' then orMalformed (s.atOpening? .openObject)
  else if c == ']' then orMalformed (s.atClosing? .closeList)
  else if c == '\x7d' then orMalformed (s.atClosing? .closeObject)
  else if c == ',' then orMalformed s.atComma?
  else if c == '-' && separated rest then orMalformed s.atDash?
  else if c == '?' && (inFlow || separated rest) then orMalformed s.atKey?
  else if c == ':' && (inFlow || separated rest) then orMalformed s.atValue?
  else if c == '*' then orMalformed (nameAt? s.cur >>= fun (n, after) => s.atWord? (.alias n) after)
  else if c == '&' then orMalformed (nameAt? s.cur >>= fun (n, after) => s.atWord? (.anchor n) after)
  else if c == '!' then orMalformed (tagAt? s.cur >>= fun (t, after) => s.atWord? (.tag t) after)
  else if (c == '|' || c == '>') && !inFlow then orMalformed s.atBlockScalar?
  else if c == '\'' || c == '"' then s.atQuoted
  else if startsPlain inFlow s.cur.rest then orMalformed s.atPlain?
  else .error .malformed

/-- The state after the next token, or none at the end of the text. -/
def step (s : Scan) : Except DataFault (Option Scan) :=
  match s.skipGap.dropStale? with
  | none => .error .malformed
  | some s =>
    let s := s.unindent s.cur.column
    match s.cur.rest with
    | [] => .ok none
    | c :: rest => (s.token c rest).map some

/-- All tokens, the last one first; a fault stands at the end. -/
def run : Nat → Scan → List Token
  | 0, s => .broken .malformed :: s.tokens
  | fuel + 1, s =>
    match s.step with
    | .error f => .broken f :: s.tokens
    | .ok (some s) => run fuel s
    | .ok none =>
      let closed := s.unindent (-1)
      match closed.dropKey? with
      | some _ => closed.tokens
      | none => .broken .malformed :: closed.tokens

end Scan

/-- The tokens of a text. -/
def Token.ofText (s : List Char) : List Token :=
  (Scan.run (s.length + 2) (.start s)).reverse

end FormPress.Yaml
