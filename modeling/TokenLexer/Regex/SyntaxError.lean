import TokenLexer.Text

/-!
# Faults in a regular expression

What can be wrong with the text of a regular expression, and the part of it that
a complaint shows.
-/

namespace TokenLexer

namespace Regex

/-- The kinds of fault in the text of a regular expression. -/
inductive Fault
  | unclosedGroup
  | unopenedGroup
  | unclosedClass
  | badRange
  | badEscape
  | trailingBackslash
  | nothingToRepeat
  | stackedRepeats
  | badRepeatSize
  | badGroupOperator
  | badGroupName
  | badEncoding
  deriving DecidableEq, Repr

namespace Fault

def phrase : Fault → String
  | unclosedGroup => "missing )"
  | unopenedGroup => "unexpected )"
  | unclosedClass => "missing ]"
  | badRange => "invalid character class range"
  | badEscape => "invalid escape sequence"
  | trailingBackslash => "trailing \\"
  | nothingToRepeat => "no argument for repetition operator"
  | stackedRepeats => "bad repetition operator"
  | badRepeatSize => "invalid repetition size"
  | badGroupOperator => "invalid perl operator"
  | badGroupName => "invalid named capture group"
  | badEncoding => "invalid UTF-8"

end Fault

/-- A fault and the text it shows, empty where there is nothing to show. -/
structure SyntaxError where
  fault : Fault
  shown : List Char := []
  deriving DecidableEq, Repr

namespace SyntaxError

/-- The complaint in words. -/
def message (error : SyntaxError) : Text :=
  Text.ofString error.fault.phrase ++
    (if error.shown.isEmpty then [] else Text.ofString ": " ++ error.shown.map Char.toNat)

end SyntaxError

end Regex

end TokenLexer
