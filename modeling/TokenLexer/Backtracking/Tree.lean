import TokenLexer.Regex.CharClass

/-!
# Expressions of the backtracking dialect

The second dialect knows more than the linear one: back references, looking
ahead and behind. Its characters are those of Unicode unless a flag says ASCII.
-/

namespace TokenLexer

namespace Backtracking

/-- The flags of a whole expression. -/
structure Flags where
  ignoreCase : Bool := false
  dotAll : Bool := false
  multiLine : Bool := false
  spaced : Bool := false
  ascii : Bool := false
  deriving DecidableEq, Repr

/-- A condition on the place between two characters. In an empty text there is no
place that is no word edge. -/
inductive Place
  | textStart
  | textEnd
  | lastLineEnd
  | lineStart
  | lineEnd
  | wordEdge (ascii : Bool)
  | notWordEdge (ascii : Bool)
  deriving DecidableEq, Repr

/-- What a back reference takes for the same character. -/
inductive Likeness
  | exact
  | asciiCase
  | anyCase
  deriving DecidableEq, Repr

/-- An expression. `behind` looks back over a fixed number of characters. -/
inductive Tree
  | empty
  | chars (set : CharClass)
  | place (condition : Place)
  | seq (first second : Tree)
  | either (first second : Tree)
  | repeated (body : Tree) (least : Nat) (most : Option Nat) (greedy : Bool)
  | group (index : Nat) (body : Tree)
  | backReference (index : Nat) (likeness : Likeness)
  | ahead (negated : Bool) (body : Tree)
  | behind (negated : Bool) (width : Nat) (body : Tree)
  deriving DecidableEq, Repr

namespace Tree

def seqAll : List Tree → Tree
  | [] => .empty
  | [last] => last
  | first :: rest => .seq first (seqAll rest)

def eitherOf : List Tree → Tree
  | [] => .empty
  | [last] => last
  | first :: rest => .either first (eitherOf rest)

/-- The number of groups that capture. -/
def groupCount : Tree → Nat
  | .empty | .chars _ | .place _ | .backReference _ _ => 0
  | .seq first second | .either first second => groupCount first + groupCount second
  | .repeated body _ _ _ | .ahead _ body | .behind _ _ body => groupCount body
  | .group _ body => groupCount body + 1

/-- The number of characters that every match takes, if all take the same. -/
def width? : Tree → Option Nat
  | .empty | .place _ | .ahead _ _ | .behind _ _ _ => some 0
  | .chars _ => some 1
  | .seq first second => do return (← width? first) + (← width? second)
  | .either first second => do
    let width ← width? first
    if (← width? second) = width then some width else none
  | .repeated body least most _ => do
    if most = some least then return least * (← width? body) else none
  | .group _ body => width? body
  | .backReference _ _ => none

end Tree

end Backtracking

end TokenLexer
