import QueryOutline.Text.CodeRange

namespace QueryOutline.Text

/-- The characters beyond ASCII with the property `White_Space`. -/
def blankRanges : List CodeRange :=
  [(0x85, 0x85), (0xA0, 0xA0), (0x1680, 0x1680), (0x2000, 0x200A), (0x2028, 0x2029),
    (0x202F, 0x202F), (0x205F, 0x205F), (0x3000, 0x3000)]

/-- Whether the character has the property `White_Space`. In ASCII these are the space and the
five control characters from the tab to the carriage return. -/
def isBlank (c : Char) : Bool :=
  if isAscii c then c == ' ' || CodeRange.contains (0x9, 0xD) c.toNat else inRanges blankRanges c

def isBlankText (text : List Char) : Bool :=
  text.all isBlank

end QueryOutline.Text
