import TokenLexer.Number.Reading
import TokenLexer.Number.Shortest
import TokenLexer.Text.Quoted
import TokenLexer.Value

/-!
# Values in messages

How a value is written inside a message: texts in quotes, numbers by their
digits, containers by their contents. An empty lexer and a configuration are
written as the calls that build them. A whole number with too many digits is not
written, and neither is a value that holds one.
-/

namespace TokenLexer

mutual

/-- The value as it is written inside a message. -/
def Value.shown : Value → Text
  | .none => Text.ofString "None"
  | .bool b => Text.ofString (if b then "True" else "False")
  | .int i => Text.ofInt i
  | .float x => x.text
  | .text t => t.quoted
  | .bytes b => Text.quotedBytes b
  | .list items => Text.ofString "[" ++ Text.join (Text.ofString ", ") (Value.shownItems items) ++
      Text.ofString "]"
  | .tuple items => Value.shownTuple (Value.shownItems items)
  | .dict entries =>
    [0x7b] ++ Text.join (Text.ofString ", ") (Value.shownEntries entries) ++ [0x7d]
  | .config rules => Text.ofString "LexerConfig(rules=" ++
      Value.shownTuple (Value.shownRules rules) ++ Text.ofString ")"
  | .lexer .empty => Text.ofString "Empty()"
  | value => Text.ofString "<" ++ Text.ofString value.typeName ++ Text.ofString " object>"

def Value.shownTuple : List Text → Text
  | [item] => Text.ofString "(" ++ item ++ Text.ofString ",)"
  | items => Text.ofString "(" ++ Text.join (Text.ofString ", ") items ++ Text.ofString ")"

def Value.shownItems : List Value → List Text
  | [] => []
  | item :: rest => Value.shown item :: Value.shownItems rest

def Value.shownEntries : List (Value × Value) → List Text
  | [] => []
  | (key, value) :: rest =>
    (Value.shown key ++ Text.ofString ": " ++ Value.shown value) :: Value.shownEntries rest

def Value.shownRules : List (Value × Value) → List Text
  | [] => []
  | (regex, convert) :: rest =>
    (Text.ofString "RuleConfig(regex=" ++ Value.shown regex ++ Text.ofString ", convert=" ++
      Value.shown convert ++ Text.ofString ")") :: Value.shownRules rest

end

mutual

/-- Whether the value can be written: no whole number in it has too many digits. -/
def Value.isWritable : Value → Bool
  | .int i => i.natAbs < Nat.pow 10 Number.digitLimit
  | .list items | .tuple items => Value.areWritable items
  | .dict entries | .config entries => Value.areEntriesWritable entries
  | _ => true

def Value.areWritable : List Value → Bool
  | [] => true
  | item :: rest => Value.isWritable item && Value.areWritable rest

def Value.areEntriesWritable : List (Value × Value) → Bool
  | [] => true
  | (key, value) :: rest =>
    Value.isWritable key && Value.isWritable value && Value.areEntriesWritable rest

end

theorem Value.isWritable_digit {i : Int} (small : i.natAbs < 10) :
    (Value.int i).isWritable = true := by
  have limit {n : Nat} (some : n ≠ 0) : i.natAbs < Nat.pow 10 n :=
    Nat.lt_of_lt_of_le small (Nat.le_self_pow some 10)
  have some : Number.digitLimit ≠ 0 := by decide
  rw [isWritable]
  exact decide_eq_true (limit some)

/-- The value as a text: a text is itself, all else is as it is written. -/
def Value.asText : Value → Text
  | .text t => t
  | value => value.shown

end TokenLexer
