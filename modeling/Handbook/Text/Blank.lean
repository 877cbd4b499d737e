import Handbook.Text.CodeRanges

/-! The Unicode property White_Space, and the control characters beside it. Identifiers refuse
both, and Markdown decides with the first where emphasis may open and close. -/
namespace Handbook.Text

/-- The code points of White_Space. -/
def blankRanges : CodeRanges :=
  [(0x9, 0xD), (0x20, 0x20), (0x85, 0x85), (0xA0, 0xA0), (0x1680, 0x1680), (0x2000, 0x200A),
    (0x2028, 0x2029), (0x202F, 0x202F), (0x205F, 0x205F), (0x3000, 0x3000)]

/-- Whether a character has the property White_Space. -/
def isBlank (c : Char) : Bool := blankRanges.has c

/-- Whether a character is one of the sixty-five control characters. -/
def isControl (c : Char) : Bool := c.toNat < 0x20 || (0x7F ≤ c.toNat && c.toNat < 0xA0)

end Handbook.Text
