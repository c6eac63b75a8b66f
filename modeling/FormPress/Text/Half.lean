/-
  FormPress.Text.Half

  Halves of surrogate pairs. A half alone is no character; where a text holds
  one, the character of the last private plane with the same last four digits
  stands in for it, so that it is kept apart from all others and can be written
  as what it is.
-/

namespace FormPress.Text

/-- The character that stands in for the half of number zero. -/
def firstHalf : Nat := 0x10D800

/-- The number of a half that is written by four hexadecimal digits, if it is one. -/
def isHalf (n : Nat) : Bool := 0xD800 ≤ n && n ≤ 0xDFFF

/-- The character of a number, of a half the one that stands in for it. -/
def charOf (n : Nat) : Char :=
  if isHalf n then Char.ofNat (firstHalf + (n - 0xD800)) else Char.ofNat n

/-- The half that a character stands in for. -/
def half? (c : Char) : Option Nat :=
  let n := c.toNat
  if firstHalf ≤ n && n ≤ firstHalf + 0x7FF then some (0xD800 + (n - firstHalf)) else none

/-- Whether a text holds a half, and therefore cannot be written as bytes. -/
def hasHalf (s : String) : Bool := s.toList.any fun c => (half? c).isSome

/-- Whether a half stands for a byte in the name of a file that is no text. -/
def isByteHalf (n : Nat) : Bool := 0xDC80 ≤ n && n ≤ 0xDCFF

/-- Whether a text holds a half that no name of a file can have. -/
def isUnnamable (s : String) : Bool := s.toList.any fun c => (half? c).any fun n => !isByteHalf n

end FormPress.Text
