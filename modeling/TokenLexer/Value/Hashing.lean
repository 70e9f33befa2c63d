import TokenLexer.Value

/-!
# Values as keys

Only a value that cannot change may be a key. Lists, dictionaries and counters
can, and so can every value that is made of one.
-/

namespace TokenLexer

def Mapper.unhashable? : Mapper Value → Option String
  | .counter _ _ => some "CountingMapper"
  | _ => none

mutual

/-- The type of the first part of a value that keeps it from being a key. -/
def Value.unhashable? : Value → Option String
  | .list _ => some "list"
  | .dict _ => some "dict"
  | .registry _ => some "mappingproxy"
  | .tuple items => Value.unhashableItem? items
  | .config rules => Value.unhashableRule? rules
  | .mapper m => m.unhashable?
  | .lexer l => Lexer.unhashable? l
  | _ => none

def Value.unhashableItem? : List Value → Option String
  | [] => none
  | item :: rest => (Value.unhashable? item).or (Value.unhashableItem? rest)

def Value.unhashableRule? : List (Value × Value) → Option String
  | [] => none
  | (regex, convert) :: rest =>
    (Value.unhashable? regex).or ((Value.unhashable? convert).or (Value.unhashableRule? rest))

def Lexer.unhashable? : Lexer Value → Option String
  | .mapped inner mapper => (Lexer.unhashable? inner).or mapper.unhashable?
  | .orElse first second => (Lexer.unhashable? first).or (Lexer.unhashable? second)
  | .recording _ inner => Lexer.unhashable? inner
  | .constant value | .stray value => Value.unhashable? value
  | .empty | .bare _ | .pattern _ => none

end

end TokenLexer
