import TokenLexer.Text

/-!
# Blank characters

The white space of Unicode, and the smaller set of ASCII blanks that may stand
around a number. The four ASCII separators from U+001C on belong to the first
set only.
-/

namespace TokenLexer

namespace CodePoint

/-- Tab, line feed, vertical tab, form feed, carriage return and the plain blank. -/
def isAsciiBlank (c : CodePoint) : Bool :=
  (0x09 ≤ c && c ≤ 0x0d) || c == 0x20

/-- White space of any script. -/
def isBlank (c : CodePoint) : Bool :=
  isAsciiBlank c || (0x1c ≤ c && c ≤ 0x1f) || c == 0x85 || c == 0xa0 || c == 0x1680 ||
    (0x2000 ≤ c && c ≤ 0x200a) || c == 0x2028 || c == 0x2029 || c == 0x202f || c == 0x205f ||
    c == 0x3000

end CodePoint

end TokenLexer
