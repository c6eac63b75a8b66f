/-
  FormPress.Text.Case

  Small letters of a text. Each character has at most one small letter, with
  two exceptions of the full mapping: the capital dotted I becomes a dotted i
  of two characters, and the capital sigma has another small letter at the end
  of a word.
-/
import FormPress.Text.CaseTable

namespace FormPress.Text

/-- Whether a code point lies in one of the ranges. -/
def inRanges (ranges : List (Nat × Nat)) (n : Nat) : Bool :=
  ranges.any fun r => decide (r.1 ≤ n) && decide (n ≤ r.2)

/-- The small letter of a character, the character itself if it has none. -/
def lowerChar (c : Char) : Char :=
  if c.toNat < 128 then c.toLower
  else
    let n := c.toNat
    match capitalRuns.find? fun r =>
        decide (r.1 ≤ n) && decide (n ≤ r.2.1) && (n - r.1) % r.2.2.1 == 0 with
    | some r => Char.ofNat (((n : Int) + r.2.2.2).toNat)
    | none => c

/-- Whether a character has case. -/
def isCased (c : Char) : Bool := inRanges casedRanges c.toNat

/-- Whether a character is skipped when the end of a word is looked for. -/
def isCaseIgnorable (c : Char) : Bool := inRanges caseIgnorableRanges c.toNat

/-- Whether the first character that is not skipped has case. -/
def casedNext (s : List Char) : Bool :=
  match s.dropWhile isCaseIgnorable with
  | [] => false
  | c :: _ => isCased c

/-- The small letters of one character between the text before it, read backwards, and the
    text after it: a capital sigma after but not before a letter ends a word. -/
def lowerAt (before : List Char) (c : Char) (after : List Char) : List Char :=
  if c == 'İ' then ['i', '\u0307']
  else if c == 'Σ' then [if casedNext before && !casedNext after then 'ς' else 'σ']
  else [lowerChar c]

/-- The small letters of a text, given the text before it read backwards. -/
def lowerFrom : List Char → List Char → List Char
  | _, [] => []
  | before, c :: rest => lowerAt before c rest ++ lowerFrom (c :: before) rest

/-- The text in small letters. -/
def lower (s : String) : String := String.ofList (lowerFrom [] s.toList)

end FormPress.Text
