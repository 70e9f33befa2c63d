import TokenLexer.Lexer
import TokenLexer.Number.Binary64

/-!
# Values

The values that texts are turned into and that configurations are made of: plain
data, and the objects of the library itself. Dictionaries keep the order in which
their entries were made.
-/

namespace TokenLexer

/-- A value. `object` is one of which only the type and the identity matter. -/
inductive Value
  | none
  | bool (b : Bool)
  | int (i : Int)
  | float (x : Binary64)
  | text (t : Text)
  | bytes (b : List Nat)
  | list (items : List Value)
  | tuple (items : List Value)
  | dict (entries : List (Value × Value))
  | mapper (m : Mapper Value)
  | lexer (l : Lexer Value)
  | pattern (p : Pattern Value)
  | config (rules : List (Value × Value))
  | registry (converters : List (Value × Mapper Value))
  | builder (serial : Nat)
  | object (typeName : String) (serial : Nat)
  deriving Inhabited

namespace Mapper

/-- What a message calls a mapper that holds no stray value. -/
def typeName {V : Type} : Mapper V → String
  | .function f => f.typeName
  | .counter _ _ => "CountingMapper"
  | .inert _ => "object"

end Mapper

namespace Pattern

def typeName {V : Type} : Pattern V → String
  | .linear _ _ | .ofBytes .linear _ _ _ => "_Regexp"
  | .backtracking _ _ _ | .ofBytes .backtracking _ _ _ => "Pattern"
  | .table _ _ => "StubPattern"

end Pattern

namespace Value

/-- The type of a value as messages call it. -/
def typeName : Value → String
  | .none => "NoneType"
  | .bool _ => "bool"
  | .int _ => "int"
  | .float _ => "float"
  | .text _ => "str"
  | .bytes _ => "bytes"
  | .list _ => "list"
  | .tuple _ => "tuple"
  | .dict _ => "dict"
  | .mapper (.inert value) => typeName value
  | .mapper m => m.typeName
  | .lexer .empty => "Empty"
  | .lexer (.bare _) => "Lexer"
  | .lexer (.pattern _) => "PatternLexer"
  | .lexer (.mapped _ _) => "Mapped"
  | .lexer (.orElse _ _) => "Alternative"
  | .lexer (.recording _ _) => "RecordingLexer"
  | .lexer (.constant _) => "Constant"
  | .lexer (.stray value) => typeName value
  | .pattern p => p.typeName
  | .config _ => "LexerConfig"
  | .registry _ => "Registry"
  | .builder _ => "RegistryBuilder"
  | .object name _ => name

/-- The value as a mapper; what is no function and no counter is inert. -/
def toMapper : Value → Mapper Value
  | .mapper m => m
  | value => .inert value

/-- The value as a lexer; what is no lexer is stray. -/
def toLexer : Value → Lexer Value
  | .lexer l => l
  | value => .stray value

/-- The value that a lexer in a tree stands for. -/
def ofLexer : Lexer Value → Value
  | .stray value => value
  | l => .lexer l

/-- The value that a mapper in a tree stands for. -/
def ofMapper : Mapper Value → Value
  | .inert value => value
  | m => .mapper m

/-- Whether the value can be called. -/
def isCallable : Value → Bool
  | .mapper (.inert _) => false
  | .mapper _ => true
  | _ => false

/-- Whether a condition takes the value for true. -/
def isTruthy : Value → Bool
  | .none => false
  | .bool b => b
  | .int i => i != 0
  | .float x => !x.isZero
  | .text t => !t.isEmpty
  | .bytes b => !b.isEmpty
  | .list items | .tuple items => !items.isEmpty
  | .dict entries => !entries.isEmpty
  | _ => true

end Value

end TokenLexer
