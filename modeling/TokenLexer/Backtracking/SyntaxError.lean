import TokenLexer.Text.Quoted

/-!
# Faults in an expression of the backtracking dialect

What can be wrong with the text of an expression, and where it was noticed. A
complaint gives the position and, if the expression has more than one line, the
line and the column too.
-/

namespace TokenLexer

namespace Backtracking

/-- The kinds of fault in the text of an expression. -/
inductive Fault
  | unopenedGroup
  | unclosedGroup
  | unclosedClass
  | unclosedComment
  | unclosedName (bracket : String)
  | noName
  | badName (name : Text)
  | unknownName (name : Text)
  | takenName (name : Text) (index earlier : Nat)
  | unknownReference (index : Nat)
  | openReference
  | unknownExtension (operator : Text)
  | endOfExpression
  | lateFlags
  | missing (wanted : String)
  | unknownFlag
  | contraryFlags
  | permanentFlag
  | badEscape (shown : Text)
  | cutEscape (shown : Text)
  | octalOverLimit (shown : Text)
  | badRange (shown : Text)
  | nothingToRepeat
  | stackedRepeats
  | crossedBounds
  | openWidth
  deriving DecidableEq, Repr

namespace Fault

open Text (ofString)

def message : Fault → Text
  | unopenedGroup => ofString "unbalanced parenthesis"
  | unclosedGroup => ofString "missing ), unterminated subpattern"
  | unclosedClass => ofString "unterminated character set"
  | unclosedComment => ofString "missing ), unterminated comment"
  | unclosedName bracket => ofString "missing " ++ ofString bracket ++ ofString ", unterminated name"
  | noName => ofString "missing group name"
  | badName name => ofString "bad character in group name " ++ name.quoted
  | unknownName name => ofString "unknown group name " ++ name.quoted
  | takenName name index earlier => ofString "redefinition of group name " ++ name.quoted ++
      ofString " as group " ++ Text.ofNat index ++ ofString "; was group " ++ Text.ofNat earlier
  | unknownReference index => ofString "invalid group reference " ++ Text.ofNat index
  | openReference => ofString "cannot refer to an open group"
  | unknownExtension operator => ofString "unknown extension " ++ operator
  | endOfExpression => ofString "unexpected end of pattern"
  | lateFlags => ofString "global flags not at the start of the expression"
  | missing wanted => ofString "missing " ++ ofString wanted
  | unknownFlag => ofString "unknown flag"
  | contraryFlags => ofString "bad inline flags: flag turned on and off"
  | permanentFlag => ofString "bad inline flags: cannot turn off flags 'a', 'u' and 'L'"
  | badEscape shown => ofString "bad escape " ++ shown
  | cutEscape shown => ofString "incomplete escape " ++ shown
  | octalOverLimit shown => ofString "octal escape value " ++ shown ++
      ofString " outside of range 0-0o377"
  | badRange shown => ofString "bad character range " ++ shown
  | nothingToRepeat => ofString "nothing to repeat"
  | stackedRepeats => ofString "multiple repeat"
  | crossedBounds => ofString "min repeat greater than max repeat"
  | openWidth => ofString "look-behind requires fixed-width pattern"

end Fault

/-- A fault in the expression `source`, and where it was noticed. -/
structure SyntaxError where
  fault : Fault
  source : Text
  position : Option Nat
  deriving DecidableEq, Repr

namespace SyntaxError

open Text (ofString)

/-- The line and the column of a position, both counted from one. -/
def lineAndColumn (source : Text) (position : Nat) : Nat × Nat :=
  let before := source.take position
  (before.count 0x0a + 1, (before.reverse.takeWhile (· != 0x0a)).length + 1)

private def placeMessage (source : Text) (position : Nat) : Text :=
  let (line, column) := lineAndColumn source position
  ofString " at position " ++ Text.ofNat position ++
    if source.contains 0x0a then
      ofString " (line " ++ Text.ofNat line ++ ofString ", column " ++ Text.ofNat column ++
        ofString ")"
    else
      []

/-- The complaint in words. -/
def message (error : SyntaxError) : Text :=
  error.fault.message ++
    match error.position with
    | some position => placeMessage error.source position
    | none => []

end SyntaxError

end Backtracking

end TokenLexer
