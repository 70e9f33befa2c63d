import TokenLexer.Regex.CharClass

/-!
# Regular expressions as trees

The expressions of the linear dialect, and what it means for one to match a
stretch of a text. `Matches` reads literals, anchors, concatenation, alternation
and repetition in the usual way, without any order of preference, and carries
the stretch that group 1 captured last.
-/

namespace TokenLexer

/-- A condition on the place between two characters. -/
inductive Anchor
  | textStart
  | textEnd
  | lineStart
  | lineEnd
  | wordEdge
  | notWordEdge
  deriving DecidableEq, Repr

namespace Anchor

/-- Whether exactly one of the two neighbours is a word character. -/
def atWordEdge (before after : Option CodePoint) : Bool :=
  before.any CodePoint.isAsciiWord != after.any CodePoint.isAsciiWord

/-- Whether the condition holds between `before` and `after`; `none` is the outside of the text. -/
def holds (anchor : Anchor) (before after : Option CodePoint) : Bool :=
  match anchor with
  | .textStart => before.isNone
  | .textEnd => after.isNone
  | .lineStart => before.all (· == 0x0a)
  | .lineEnd => after.all (· == 0x0a)
  | .wordEdge => atWordEdge before after
  | .notWordEdge => !atWordEdge before after

end Anchor

/-- A regular expression. Groups that capture are numbered from 1 by their opening brackets. -/
inductive Regex
  | empty
  | chars (set : CharClass)
  | anchor (condition : Anchor)
  | seq (first second : Regex)
  | either (first second : Regex)
  | repeated (body : Regex) (least : Nat) (most : Option Nat) (greedy : Bool)
  | group (index : Nat) (body : Regex)
  deriving DecidableEq, Repr

namespace Regex

/-- The expressions one after another. -/
def seqAll : List Regex → Regex
  | [] => .empty
  | [last] => last
  | first :: rest => .seq first (seqAll rest)

/-- The choice between the expressions, the first preferred. -/
def eitherOf : List Regex → Regex
  | [] => .empty
  | [last] => last
  | first :: rest => .either first (eitherOf rest)

/-- The number of groups that capture. -/
def groupCount : Regex → Nat
  | .empty | .chars _ | .anchor _ => 0
  | .seq first second | .either first second => groupCount first + groupCount second
  | .repeated body _ _ _ => groupCount body
  | .group _ body => groupCount body + 1

/-- What remains of a budget of copies after the counted repetitions of a tree
divided it, the poorest branch counting. -/
def copiesLeft : Nat → Regex → Nat
  | budget, .empty | budget, .chars _ | budget, .anchor _ => budget
  | budget, .seq first second | budget, .either first second =>
    min (copiesLeft budget first) (copiesLeft budget second)
  | budget, .repeated body least most _ =>
    let count := most.getD least
    copiesLeft (if count = 0 then budget else budget / count) body
  | budget, .group _ body => copiesLeft budget body

/-- The stretch that group 1 captured last, from its start to its stop. -/
abbrev Capture := Option (Nat × Nat)

/-- In `Matches text r i j old new`, `r` matches `text` from position `i` to `j`, and
turns the capture `old` into `new`. -/
inductive Matches (text : Text) : Regex → Nat → Nat → Capture → Capture → Prop
  | empty {i cap} : Matches text .empty i i cap cap
  | chars {set i c cap} (char : text[i]? = some c) (inside : set.contains c = true) :
      Matches text (.chars set) i (i + 1) cap cap
  | anchor {condition i cap}
      (holds : condition.holds (if i = 0 then none else text[i - 1]?) text[i]? = true) :
      Matches text (.anchor condition) i i cap cap
  | seq {first second i j k cap mid new} (head : Matches text first i j cap mid)
      (tail : Matches text second j k mid new) : Matches text (.seq first second) i k cap new
  | left {first second i j cap new} (chosen : Matches text first i j cap new) :
      Matches text (.either first second) i j cap new
  | right {first second i j cap new} (chosen : Matches text second i j cap new) :
      Matches text (.either first second) i j cap new
  | stop {body most greedy i cap} : Matches text (.repeated body 0 most greedy) i i cap cap
  | again {body least most greedy i j k cap mid new} (room : most ≠ some 0)
      (once : Matches text body i j cap mid)
      (others : Matches text (.repeated body (least - 1) (most.map (· - 1)) greedy) j k mid new) :
      Matches text (.repeated body least most greedy) i k cap new
  | group {index body i j cap mid} (inside : Matches text body i j cap mid) :
      Matches text (.group index body) i j cap (if index = 1 then some (i, j) else mid)

end Regex

end TokenLexer
