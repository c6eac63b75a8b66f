/-
  FormPress.Data.Yaml.Block

  Scalars set off by indentation: kept line by line after a bar, folded after
  an angle. The header may fix the indentation and says which breaks at the end
  are kept.
-/
import FormPress.Data.Yaml.Flow

namespace FormPress.Yaml

/-- Which line breaks at the end of a block scalar are kept. -/
inductive Chomping where
  | strip
  | clip
  | keep
  deriving DecidableEq, Inhabited

/-- The two optional marks after the bar or angle, in either order, and the text after them. -/
def blockHeader : List Char → Option (Chomping × Option Nat × List Char)
  | s =>
    let chomp : Char → Option Chomping := fun c =>
      if c == '+' then some .keep else if c == '-' then some .strip else none
    let digit : Char → Option Nat := fun c =>
      if '1' ≤ c ∧ c ≤ '9' then some (c.toNat - 48) else none
    match s with
    | a :: rest =>
      match chomp a, digit a with
      | some k, _ =>
        match rest with
        | b :: rest' =>
          match digit b with
          | some n => some (k, some n, rest')
          | none => some (k, none, rest)
        | [] => some (k, none, [])
      | none, some n =>
        match rest with
        | b :: rest' =>
          match chomp b with
          | some k => some (k, some n, rest')
          | none => some (.clip, some n, rest)
        | [] => some (.clip, some n, [])
      | none, none => if a == '0' then none else some (.clip, none, s)
    | [] => some (.clip, none, [])

/-- Skips up to `indent` columns of spaces. -/
def skipIndent (indent : Nat) (cur : Cursor) : Cursor :=
  cur.advance (min (indent - cur.column) (cur.rest.takeWhile (· == ' ')).length)

/-- The breaks of empty lines from here on, and the place at the first line that is not empty. -/
def blockBreaks (indent : Nat) : Nat → List Char → Cursor → List Char × Cursor
  | 0, acc, cur => (acc.reverse, cur)
  | fuel + 1, acc, cur =>
    let cur := skipIndent indent cur
    match cur.rest with
    | c :: _ =>
      if isBreak c then blockBreaks indent fuel (breakText c :: acc) cur.next
      else (acc.reverse, cur)
    | [] => (acc.reverse, cur)

/-- The deepest column reached by spaces over the empty lines from here on. -/
def deepestSpaces : Nat → Nat → List Char → Nat
  | deepest, _, [] => deepest
  | deepest, column, c :: s =>
    if isBreak c then deepestSpaces deepest 0 s
    else if c == ' ' then deepestSpaces (max deepest (column + 1)) (column + 1) s
    else deepest

/-- The lines of a block scalar; `acc` holds the text so far in reverse, `pending` the breaks of
    the empty lines before this one. The last component is the text with the break of the last
    line and the breaks after it. -/
def blockLines (folded : Bool) (indent : Nat) :
    Nat → List Char → List Char → Cursor → List Char × List Char × List Char × Cursor
  | 0, acc, pending, cur => (acc, [], pending, cur)
  | fuel + 1, acc, pending, cur =>
    if cur.column == indent && !cur.rest.isEmpty then
      let leading := fun (s : List Char) => (s.head?.map isInlineBlank).getD false
      let body := cur.rest.takeWhile fun c => !isBreak c
      let acc := body.reverse ++ pending.reverse ++ acc
      let atBreak := cur.advance body.length
      let lineBreak := (atBreak.rest.take 1).map breakText
      let (breaks, nextCur) := blockBreaks indent atBreak.left [] atBreak.next
      if nextCur.column == indent && !nextCur.rest.isEmpty then
        let joint :=
          if folded && lineBreak == ['\n'] && !leading cur.rest && !leading nextCur.rest then
            (if breaks.isEmpty then [' '] else [])
          else lineBreak
        blockLines folded indent fuel (joint ++ acc) breaks nextCur
      else (acc, lineBreak, breaks, nextCur)
    else (acc, [], pending, cur)

/-- A block scalar from its bar or angle on, inside a collection at column `parent` (minus one
    outside of any). -/
def blockScalar? (parent : Int) (cur : Cursor) : Option (String × Cursor) := do
  let folded := cur.rest.head? == some '>'
  let (chomping, width, rest) ← blockHeader (cur.rest.drop 1)
  let header := cur.advance (cur.rest.length - rest.length)
  guard (wordEnds header.rest)
  let lineEnd := header.skipSpaces.skipComment
  guard (lineEnds lineEnd.rest)
  let start := lineEnd.next
  let least := max 1 (parent + 1).toNat
  let indent :=
    match width with
    | some n => least + n - 1
    | none => max least (deepestSpaces 0 0 start.rest)
  let (breaks, first) := blockBreaks indent (start.left + 1) [] start
  let (acc, lineBreak, tail, after) :=
    blockLines folded indent (start.left + 1) [] breaks first
  let body := acc.reverse
  let text :=
    match chomping with
    | .strip => body
    | .clip => body ++ lineBreak
    | .keep => body ++ lineBreak ++ tail
  some (String.ofList text, after)

end FormPress.Yaml
