import Notebase.Text.Ranges

/-!
Blank characters: the white space of Unicode together with the four separator controls
U+001C to U+001F. Names are trimmed and split at these.
-/

namespace Notebase

def blankRanges : Ranges := [
  (0x9, 0xD), (0x1C, 0x20), (0x85, 0x85), (0xA0, 0xA0), (0x1680, 0x1680), (0x2000, 0x200A),
  (0x2028, 0x2029), (0x202F, 0x202F), (0x205F, 0x205F), (0x3000, 0x3000)]

/-- White space of any kind, line breaks included. -/
def isBlank (c : Char) : Bool := Ranges.has c.toNat blankRanges

/-- The white space of Unicode alone, without the separator controls. -/
def isWhiteSpace (c : Char) : Bool := isBlank c && !Ranges.has c.toNat [(0x1C, 0x1F)]

/-- The blanks that may stand between a list item and the end of its line. -/
def isSpaceOrTab (c : Char) : Bool := c == ' ' || c == '\t'

end Notebase
