import Lanewise.Text.Ranges

/-!
# Blank characters

White space in the sense of Unicode: tabs, line breaks, the information separators and the spaces,
among them the ones that do not break a line. The zero-width space is not blank.
-/

namespace Lanewise.Text

/-- Code points of white space, as inclusive ranges. -/
def blankRanges : List (Nat × Nat) :=
  [(0x9, 0xd), (0x1c, 0x20), (0x85, 0x85), (0xa0, 0xa0), (0x1680, 0x1680), (0x2000, 0x200a),
   (0x2028, 0x2029), (0x202f, 0x202f), (0x205f, 0x205f), (0x3000, 0x3000)]

/-- Whether a character is white space. -/
def isBlank (c : Char) : Bool :=
  inRanges blankRanges c

end Lanewise.Text
