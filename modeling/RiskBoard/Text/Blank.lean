import RiskBoard.Text.Ranges

/-!
# Blank characters

The characters with the Unicode property `White_Space`, and the removal of those at both ends of a
text.
-/

namespace RiskBoard.Text

/-- Where `White_Space` begins and ends. -/
def blankBounds : List Nat :=
  [0x9, 0xe, 0x20, 0x21, 0x85, 0x86, 0xa0, 0xa1, 0x1680, 0x1681, 0x2000, 0x200b, 0x2028, 0x202a,
    0x202f, 0x2030, 0x205f, 0x2060, 0x3000, 0x3001]

/-- Whether a character is blank. -/
def isBlank (c : Char) : Bool := withinBounds blankBounds c.toNat

/-- A list of characters without the blanks at both ends. -/
def trimBlanks (cs : List Char) : List Char :=
  ((cs.dropWhile isBlank).reverse.dropWhile isBlank).reverse

/-- A text without the blanks at both ends. -/
def trim (s : String) : String := String.ofList (trimBlanks s.toList)

end RiskBoard.Text
