import TypedSql.Text.CodeRange

/-!
# Blank characters

The characters with the Unicode property of white space.
-/

namespace TypedSql.Text

/-- Closed ranges of the characters that count as white space. -/
def blankRanges : CodeRanges :=
  [(0x9, 0xD), (0x20, 0x20), (0x85, 0x85), (0xA0, 0xA0), (0x1680, 0x1680), (0x2000, 0x200A),
   (0x2028, 0x2029), (0x202F, 0x202F), (0x205F, 0x205F), (0x3000, 0x3000)]

def isBlank (c : Char) : Bool :=
  inRanges blankRanges c

end TypedSql.Text
