import TokenLexer.Backtracking.Search
import TokenLexer.Error
import TokenLexer.Regex.Search

/-!
# Patterns

A pattern has a source, a number of groups and a way to match a whole text. The
linear dialect encodes its text strictly and so refuses one with lone surrogates;
the backtracking dialect takes any text.
-/

namespace TokenLexer

/-- What a pattern answers for a whole text. The value of a match is that of
group 1, and `none` where the group took no part. -/
inductive Reply
  | noMatch
  | matched (group : Value)
  | unencodable
  | failed (error : Error)

namespace Pattern

/-- The source that the pattern shows. -/
def source : Pattern Value → Value
  | .linear source _ => .text source
  | .backtracking source _ _ => .text source
  | .ofBytes _ _ source _ => .bytes source
  | .table _ known => known.source

/-- The number of groups that the pattern claims to have. -/
def groups : Pattern Value → Value
  | .linear _ tree => .int tree.groupCount
  | .backtracking _ _ tree => .int tree.groupCount
  | .ofBytes _ _ _ groups => .int groups
  | .table _ known => known.groups

/-- Whether the pattern was made without the attribute `name`. -/
def lacks (pattern : Pattern Value) (name : String) : Bool :=
  match pattern with
  | .table _ known => known.lacking.contains name
  | _ => false

/-- Whether the pattern has a source, a number of groups and a way to match. -/
def isComplete (pattern : Pattern Value) : Bool :=
  ["pattern", "groups", "fullmatch"].all fun name => !pattern.lacks name

private def groupValue : Option Text → Value
  | some text => .text text
  | none => .none

/-- Whether the source and the number of groups can be written inside a message. A compiled
expression has fewer groups than characters, and so never too many for that. -/
def isWritable (pattern : Pattern Value) : Bool :=
  match pattern with
  | .table _ known => known.source.isWritable && known.groups.isWritable
  | _ => true

/-- Matches the whole text. -/
def fullMatch (pattern : Pattern Value) (text : Text) : Reply :=
  match pattern with
  | .linear _ tree =>
    if text.isWellFormed then
      match tree.captureIn text with
      | some capture => .matched (groupValue (capture.map fun span => text.slice span.1 span.2))
      | none => .noMatch
    else
      .unencodable
  | .backtracking _ _ tree =>
    match tree.captureIn text with
    | some capture => .matched (groupValue capture)
    | none => .noMatch
  | .ofBytes _ _ _ _ => .noMatch
  | .table _ known =>
    match known.answers text with
    | none => .noMatch
    | some (.group value) => .matched value
    | some .unencodable => .unencodable
    | some .valueError => .failed (.refused "stub")
    | some .runtimeError => .failed (.unavailable "stub")

end Pattern

end TokenLexer
