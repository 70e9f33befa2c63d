import TokenLexer.Function.Apply
import TokenLexer.Pattern
import TokenLexer.Traced

/-!
# Matching

What a lexer makes of an input, and what happens on the way. The trace lists, in
the order in which they happen, the inputs that recording lexers were given, the
tokens that counters were given, and the calls of functions and of lexers from
outside. An outcome without a token is a non-match; a mapper that answers `none`
turns a match into one.
-/

namespace TokenLexer

/-- What happens while a lexer matches. Probes see `recorded` and `counted`. -/
inductive Event
  | recorded (probe : Nat) (input : Value)
  | counted (probe : Nat) (token : Value)
  | called (f : Function) (token : Value)
  | asked (serial : Nat) (input : Value)

/-- Whether a function or a lexer from outside was called. -/
def Event.isCall : Event → Bool
  | .called _ _ | .asked _ _ => true
  | .recorded _ _ | .counted _ _ => false

/-- Matching: after what happened before, further events, and then a token, no token, or
an error. -/
abbrev Match (α : Type) := Ongoing Event Error α

/-- What lies outside the library, by its numbers: the functions without a name, and
the ways to match of bare lexers. They may remember the calls that were made before,
but do not see what the probes saw. -/
structure Outside where
  apply : Nat → List Event → Value → Except Error Value
  tryMatch : Nat → List Event → Value → Except Error Value

/-- Nothing lies outside, and a bare lexer has no way to match. -/
def Outside.nothing : Outside where
  apply _ _ _ := .error .notImplemented
  tryMatch _ _ _ := .error .notImplemented

/-- The calls that were made before. -/
def Match.calls : Match (List Event) := do
  return (← Ongoing.past).filter Event.isCall

/-- The token that a value is: every value but `none`, the falsy ones included. -/
def Value.token? : Value → Option Value
  | .none => Option.none
  | value => some value

namespace Mapper

/-- Calls the mapper. A counter counts the call even when the call fails. -/
def call (outside : Outside) : Mapper Value → Value → Match Value
  | .function f, token => do
    let before ← Match.calls
    Ongoing.note (.called f token)
    .ofExcept (f.apply (outside.apply · before) token)
  | .counter probe inner, token => do
    Ongoing.note (.counted probe token)
    call outside inner token
  | .inert value, _ => .fail (.notCallable value.typeName)

end Mapper

namespace Pattern

/-- The token that a pattern finds in a text. A text that cannot be encoded is
no match. -/
def token? (pattern : Pattern Value) (text : Text) : Except Error (Option Value) :=
  match pattern.fullMatch text with
  | .matched group => .ok group.token?
  | .noMatch | .unencodable => .ok none
  | .failed error => .error error

end Pattern

namespace Lexer

/-- Matches a text given as a value, and complains about any other value. -/
def onText (input : Value) (read : Text → Except Error (Option Value)) :
    Match (Option Value) :=
  match input with
  | .text text => .ofExcept (read text)
  | _ => .fail (.inputNotText input.typeName)

/-- Matches an input. -/
def run (outside : Outside) : Lexer Value → Value → Match (Option Value)
  | .empty, input => onText input fun _ => .ok none
  | .bare serial, input => do
    let before ← Match.calls
    Ongoing.note (.asked serial input)
    return (← Ongoing.ofExcept (outside.tryMatch serial before input)).token?
  | .pattern leaf, input => onText input leaf.token?
  | .mapped inner mapper, input => do
    match ← run outside inner input with
    | some token => return (← mapper.call outside token).token?
    | none => return none
  | .orElse first second, input => do
    match ← run outside first input with
    | some token => return some token
    | none => run outside second input
  | .recording probe inner, input => do
    Ongoing.note (.recorded probe input)
    run outside inner input
  | .constant value, _ => .ofExcept (.ok value.token?)
  | .stray value, _ => .fail (.noAttribute value "try_match")

/-- What a match returns: the token, or `none` where there is no token. -/
def answer (outside : Outside) (lexer : Lexer Value) (input : Value) : Match Value := do
  return (← lexer.run outside input).getD .none

/-- The token, the lack of one, or the error, after the events `past`. -/
def tryMatch (lexer : Lexer Value) (input : Value) (outside : Outside := .nothing)
    (past : List Event := []) : Except Error (Option Value) :=
  (lexer.run outside input past).result

end Lexer

end TokenLexer
