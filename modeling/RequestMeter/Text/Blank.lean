/-
Blank characters: those of the property `White_Space` of Unicode, which has kept its members
for a long time.
-/
import RequestMeter.Text.CodeRange

namespace RequestMeter.Text

/-- Where the blank characters lie. -/
def blankRanges : List CodeRange :=
  [(0x9, 0xd), (0x20, 0x20), (0x85, 0x85), (0xa0, 0xa0), (0x1680, 0x1680), (0x2000, 0x200a),
   (0x2028, 0x2029), (0x202f, 0x202f), (0x205f, 0x205f), (0x3000, 0x3000)]

/-- Is a character white space? -/
def isBlank (c : Char) : Bool := blankRanges.any fun r => r.contains c

/-- A text without the blank characters at both ends. -/
def trim (s : List Char) : List Char :=
  ((s.dropWhile isBlank).reverse.dropWhile isBlank).reverse

end RequestMeter.Text
