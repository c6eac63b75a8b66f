/-
  FormPress.Text.Blank

  White space in Unicode's sense together with the four information
  separators, and texts without it at their ends.
-/

namespace FormPress.Text

/-- White space: the ASCII controls from tab to return and the information separators,
    the space, next line, the no-break space and the spaces and separators beyond. -/
def isBlank (c : Char) : Bool :=
  let n := c.toNat
  (9 ≤ n && n ≤ 13) || (28 ≤ n && n ≤ 32) || n == 0x85 || n == 0xA0 || n == 0x1680 ||
    (0x2000 ≤ n && n ≤ 0x200A) || n == 0x2028 || n == 0x2029 || n == 0x202F ||
    n == 0x205F || n == 0x3000

/-- Drops the white space in front. -/
def trimLeft (s : List Char) : List Char := s.dropWhile isBlank

/-- Drops the white space at the end. -/
def trimRight (s : List Char) : List Char := (s.reverse.dropWhile isBlank).reverse

/-- Drops the white space at both ends. -/
def trimChars (s : List Char) : List Char := trimRight (trimLeft s)

/-- The text without white space at its ends. -/
def trim (s : String) : String := String.ofList (trimChars s.toList)

end FormPress.Text
