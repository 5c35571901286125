import InterfaceStub.Text.Ranges

/-!
# Blank characters

The Unicode property `White_Space`, and the text that is left when leading or trailing blanks are
taken away.
-/

namespace InterfaceStub.Text

/-- The ranges of characters with the Unicode property `White_Space`. -/
def blankRanges : Ranges :=
  [(0x9, 0xD), (0x20, 0x20), (0x85, 0x85), (0xA0, 0xA0), (0x1680, 0x1680), (0x2000, 0x200A),
   (0x2028, 0x2029), (0x202F, 0x202F), (0x205F, 0x205F), (0x3000, 0x3000)]

/-- Whether `c` is in `blankRanges`. -/
def isBlank (c : Char) : Bool :=
  blankRanges.contains c

/-- `cs` without the blanks it starts with. -/
def dropBlanks (cs : List Char) : List Char :=
  cs.dropWhile isBlank

/-- `cs` without the blanks it ends with. -/
def dropTrailingBlanks (cs : List Char) : List Char :=
  (cs.reverse.dropWhile isBlank).reverse

end InterfaceStub.Text
