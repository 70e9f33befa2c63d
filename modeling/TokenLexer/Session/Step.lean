import TokenLexer.Probe
import TokenLexer.Registry

/-!
# Steps of a session

A session works on registers with names. A step makes an object for a register
or asks about one; its arguments are data, functions and registers.
-/

namespace TokenLexer

namespace Session

/-- An argument as it is written, before its registers are looked up. -/
inductive Argument
  | none
  | bool (b : Bool)
  | int (i : Int)
  | float (x : Binary64)
  | text (t : Text)
  | bytes (b : List Nat)
  | list (items : List Argument)
  | tuple (items : List Argument)
  | dict (entries : List (Argument × Argument))
  | function (f : Function)
  | register (name : String)
  deriving Inhabited

/-- What a table answers for one text. -/
inductive Entry
  | group (value : Argument)
  | unencodable
  | valueError
  | runtimeError

/-- Making an object. -/
inductive Making
  | empty
  | bare
  | constant (value : Argument)
  | compiled (dialect : Dialect) (flags : Backtracking.Flags) (source : Argument)
  | table (source groups : Argument) (lacking : List String) (entries : List (Text × Entry))
  | fromPattern (pattern : Argument)
  | fromRegex (regex : Argument)
  | map (receiver : String) (mapper : Argument)
  | or (receiver : String) (other : Argument)
  | orRegex (receiver : String) (regex mapper : Argument)
  | mapped (inner mapper : Argument)
  | orElse (first second : Argument)
  | recording (inner : Argument)
  | counting (function : Argument)
  | read (data : Argument)
  | config (rules : List (Argument × Argument))
  | builder
  | build (receiver : String)
  | registry
  | load (receiver : String) (config : Argument)

/-- Asking about an object, or changing one. -/
inductive Query
  | tryMatch (receiver : String) (input : Argument)
  | matches (receiver : String) (inputs : List Argument)
  | call (receiver : String) (value : Argument)
  | calls (receiver : String)
  | count (receiver : String)
  | shape (value : Argument)
  | depth (value : Argument)
  | branches (value : Argument)
  | equal (a b : Argument)
  | identical (a b : Argument)
  | hash (receiver : String)
  | shown (receiver : String)
  | get (receiver field target : String)
  | set (receiver field : String) (value : Argument)
  | delete (receiver field : String)
  | isPattern (value : Argument)
  | notes
  | value (value : Argument)
  | register (receiver : String) (name converter : Argument)
  | registerCore (receiver : String)
  | names (receiver : String)
  | size (receiver : String)
  | contains (receiver : String) (name : Argument)

inductive Step
  | make (target : String) (making : Making)
  | ask (query : Query)

/-- Why a step failed: it read a register that is not set, or raised an error. -/
inductive Fault
  | unset (register : String)
  | raised (error : Error)

/-- What a step answers. -/
inductive Response
  | made (typeName : String)
  | madePattern
  | done
  | nothing
  | value (value : Value)
  | results (results : List (Except Fault Value))
  | number (n : Nat)
  | flag (b : Bool)
  | shape (lexer : Lexer Value)
  | shapes (lexers : List (Lexer Value))
  | counter (counter : Counter)
  | notes (notes : List Note)

end Session

end TokenLexer
