/-
  FormPress.Text.Search

  Finding a text within another one: exactly (`contains`), or character by
  character without regard to case (`splitIgnoringCase`), and the word
  characters that bound a match.
-/
import FormPress.Text.Blank
import FormPress.Text.Case
import FormPress.Text.WordTable

namespace FormPress.Text

/-! ## Exact search -/

/-- Whether `needle` stands somewhere in the text. -/
def containsChars (needle : List Char) : List Char → Bool
  | [] => needle.isEmpty
  | c :: rest => needle.isPrefixOf (c :: rest) || containsChars needle rest

/-- Whether `needle` stands somewhere in `s`. -/
def contains (s needle : String) : Bool := containsChars needle.toList s.toList

/-! ## Search without regard to case -/

/-- Small letters that count as one another although neither is the other's small letter. -/
def caseFamilies : List (List Nat) := [
  [105, 305], [115, 383], [181, 956], [837, 953, 8126], [912, 8147], [944, 8163], [946, 976],
  [949, 1013], [952, 977], [954, 1008], [960, 982], [961, 1009], [962, 963], [966, 981],
  [1074, 7296], [1076, 7297], [1086, 7298], [1089, 7299], [1090, 7300, 7301], [1098, 7302],
  [1123, 7303], [7304, 42571], [7777, 7835], [64261, 64262]]

/-- Whether two characters are the same letter, whatever their case. -/
def sameLetter (a b : Char) : Bool :=
  let x := lowerChar a
  let y := lowerChar b
  x == y || caseFamilies.any fun family => family.contains x.toNat && family.contains y.toNat

/-- The rest of the text after `pattern`, if the text begins with it in any case. -/
def dropIgnoringCase : List Char → List Char → Option (List Char)
  | [], s => some s
  | _ :: _, [] => none
  | p :: ps, c :: s => if sameLetter p c then dropIgnoringCase ps s else none

/-- The text before and from the first place at which `matcher` succeeds. -/
def splitAtFirst (matcher : List Char → Bool) : List Char → Option (List Char × List Char)
  | [] => if matcher [] then some ([], []) else none
  | c :: s =>
    if matcher (c :: s) then some ([], c :: s)
    else (splitAtFirst matcher s).map fun (before, rest) => (c :: before, rest)

/-- Whether the text begins with `pattern` in any case. -/
def startsIgnoringCase (pattern s : List Char) : Bool := (dropIgnoringCase pattern s).isSome

/-- Cuts the text where `pattern` first occurs in any case; the second part begins with it. -/
def splitIgnoringCase (pattern s : List Char) : Option (List Char × List Char) :=
  splitAtFirst (startsIgnoringCase pattern) s

/-- Whether `pattern` occurs in the text in any case. -/
def containsIgnoringCase (pattern s : List Char) : Bool := (splitIgnoringCase pattern s).isSome

/-! ## Words -/

/-- Letters, digits, other numerals and the underscore. -/
def isWord (c : Char) : Bool := inRanges wordRanges c.toNat

/-- Whether a text does not go on with a word character. -/
def atWordEnd : List Char → Bool
  | [] => true
  | c :: _ => !isWord c

end FormPress.Text
