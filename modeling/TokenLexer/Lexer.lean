import TokenLexer.Backtracking.Tree
import TokenLexer.Function
import TokenLexer.Regex.Tree

/-!
# Lexers

A lexer reads one whole text as one token. Its leaves are patterns with one
capturing group; `mapped` transforms a token, `orElse` prefers one lexer to
another, `recording` takes notes of its inputs. A lexer is a plain tree: what its
probes have seen is kept elsewhere, under the probes' numbers. The trees are
given over the type `V` of tokens, since a leaf may hold one.
-/

namespace TokenLexer

/-- What turns one token into another. A counter passes tokens on to the mapper
inside it; an inert value stands where a function should. -/
inductive Mapper (V : Type)
  | function (f : Function)
  | counter (probe : Nat) (inner : Mapper V)
  | inert (value : V)

/-- What a table answers for one text: a match with that group, or a failure. -/
inductive Answer (V : Type)
  | group (value : V)
  | unencodable
  | valueError
  | runtimeError

/-- A pattern given by its answers, perhaps without some of its attributes. A text
without an answer is no match. -/
structure Table (V : Type) where
  source : V
  groups : V
  lacking : List String
  answers : Text → Option (Answer V)

/-- The two dialects of expressions that can be compiled. -/
inductive Dialect
  | linear
  | backtracking
  deriving DecidableEq, Repr

/-- A compiled pattern. One of bytes matches no text, and so has its number of groups only. -/
inductive Pattern (V : Type)
  | linear (source : Text) (tree : Regex)
  | backtracking (source : Text) (flags : Backtracking.Flags) (tree : Backtracking.Tree)
  | ofBytes (dialect : Dialect) (flags : Backtracking.Flags) (source : List Nat) (groups : Nat)
  | table (serial : Nat) (table : Table V)

/-- A lexer. `bare` is one whose way to match lies outside the library, `constant`
one that finds the same value everywhere, and `stray` a value that is no lexer but
stands in the place of one. -/
inductive Lexer (V : Type)
  | empty
  | bare (serial : Nat)
  | pattern (pattern : Pattern V)
  | mapped (inner : Lexer V) (mapper : Mapper V)
  | orElse (first second : Lexer V)
  | recording (probe : Nat) (inner : Lexer V)
  | constant (value : V)
  | stray (value : V)

namespace Lexer

variable {V : Type}

/-- The lexers that are tried one after another, in order. -/
def branches : Lexer V → List (Lexer V)
  | .orElse first second => branches first ++ branches second
  | lexer => [lexer]

/-- How many levels of transformation and choice are nested. -/
def depth : Lexer V → Nat
  | .mapped inner _ => 1 + depth inner
  | .orElse first second => 1 + max (depth first) (depth second)
  | _ => 1

@[simp] theorem branches_orElse (first second : Lexer V) :
    (orElse first second).branches = first.branches ++ second.branches := by
  simp [branches]

theorem depth_pos (lexer : Lexer V) : 0 < lexer.depth := by
  cases lexer with
  | mapped | orElse => exact Nat.add_pos_left Nat.one_pos _
  | _ => exact Nat.one_pos

end Lexer

end TokenLexer
