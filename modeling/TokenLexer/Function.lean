import TokenLexer.Text

/-!
# Functions

The functions that a program can use as mappers and as converters. Some have a
name; what these compute stands in `TokenLexer.Function.Apply`. The others are
known by a number, and what they compute is settled outside the library.
-/

namespace TokenLexer

/-- A function. Two functions are the same when their names are, and two without a
name when their numbers are. -/
inductive Function
  | str
  | int
  | float
  | lower
  | upper
  | hex
  | none
  | zero
  | blank
  | false
  | nil
  | len
  | double
  | neg
  | identity
  | reverse
  | even
  | nonblank
  | chars
  | raise
  | other (serial : Nat)
  deriving DecidableEq, Repr, Inhabited

namespace Function

def name : Function → String
  | str => "str"
  | int => "int"
  | float => "float"
  | lower => "lower"
  | upper => "upper"
  | hex => "hex"
  | none => "none"
  | zero => "zero"
  | blank => "blank"
  | false => "false"
  | nil => "nil"
  | len => "len"
  | double => "double"
  | neg => "neg"
  | identity => "identity"
  | reverse => "reverse"
  | even => "even"
  | nonblank => "nonblank"
  | chars => "chars"
  | raise => "raise"
  | other serial => "function " ++ toString serial

/-- The functions with a name. -/
def all : List Function :=
  [str, int, float, lower, upper, hex, none, zero, blank, false, nil, len, double, neg, identity,
    reverse, even, nonblank, chars, raise]

/-- The function called `name`. -/
def ofName? (name : String) : Option Function :=
  all.find? (·.name == name)

/-- What a message calls a function: the three that name a type are types. -/
def typeName : Function → String
  | str | int | float => "type"
  | lower | upper => "method_descriptor"
  | _ => "function"

end Function

end TokenLexer
