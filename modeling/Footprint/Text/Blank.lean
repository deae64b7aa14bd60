import Footprint.Text.CodePoints

/-! The white space of the Unicode standard. -/

namespace Footprint.Text

/-- The code points with the White_Space property. -/
def blankRanges : CodePoints :=
  #[(0x9, 0xd), (0x20, 0x20), (0x85, 0x85), (0xa0, 0xa0), (0x1680, 0x1680), (0x2000, 0x200a),
    (0x2028, 0x2029), (0x202f, 0x202f), (0x205f, 0x205f), (0x3000, 0x3000)]

/-- Whether a character is white space. -/
def isBlank (char : Char) : Bool := blankRanges.contains char

end Footprint.Text
