import TokenLexer.Lexer.Matching
import TokenLexer.Regex.Reading

/-!
# Building lexers

The checks that the parts of a lexer pass before it is built, so that a lexer
that was built from good parts never fails by itself. Compiling an expression is
noted, also when the expression then has the wrong number of groups. Which engine
compiles it is left open; where none is named it is the one of the linear dialect.
-/

namespace TokenLexer

/-- What is noted while lexers are built. -/
inductive Note
  | compiled (regex : Text)
  | loaded (rules : Nat)
  deriving DecidableEq, Repr

namespace Note

def message : Note → Text
  | compiled regex => Text.ofString "compiled lexer regex " ++ regex.quoted
  | loaded rules => Text.ofString "loaded lexer with " ++ Text.ofNat rules ++ Text.ofString " rules"

end Note

/-- Building: its notes, and then what was built or an error. -/
abbrev Build (α : Type) := Traced Note Error α

namespace Pattern

/-- Reads an expression of the linear dialect. The text has to be encodable. -/
def treeOf (source : Text) : Except Error Regex :=
  if source.isWellFormed then (Regex.parse (source.map Char.ofNat)).mapError .syntaxError
  else .error (.unencodable source)

/-- Compiles an expression of the linear dialect. -/
def compile (source : Text) : Except Error (Pattern Value) :=
  (treeOf source).map (.linear source)

theorem treeOf_lone {source : Text} (lone : source.isWellFormed = false) :
    treeOf source = .error (.unencodable source) := by
  rw [treeOf, lone, if_neg Bool.false_ne_true]

theorem treeOf_encodable {source : Text} (encodable : source.isWellFormed = true) :
    treeOf source = (Regex.parse (source.map Char.ofNat)).mapError .syntaxError := by
  rw [treeOf, encodable, if_pos rfl]

theorem compile_ok {source : Text} {leaf : Pattern Value} (compiled : compile source = .ok leaf) :
    ∃ tree, Regex.parse (source.map Char.ofNat) = .ok tree ∧ leaf = .linear source tree := by
  unfold compile at compiled
  cases encodable : source.isWellFormed with
  | false =>
    rw [treeOf_lone encodable] at compiled
    cases compiled
  | true =>
    rw [treeOf_encodable encodable] at compiled
    cases parsed : Regex.parse (source.map Char.ofNat) with
    | error fault =>
      rw [parsed] at compiled
      cases compiled
    | ok tree =>
      rw [parsed] at compiled
      cases compiled
      exact ⟨tree, rfl, rfl⟩

theorem compile_error {source : Text} {error : Error} (failed : compile source = .error error) :
    (source.isWellFormed = true ∧ ∃ fault, error = .syntaxError fault) ∨
      (source.isWellFormed = false ∧ error = .unencodable source) := by
  unfold compile at failed
  cases encodable : source.isWellFormed with
  | false =>
    rw [treeOf_lone encodable] at failed
    cases failed
    exact Or.inr ⟨rfl, rfl⟩
  | true =>
    rw [treeOf_encodable encodable] at failed
    cases parsed : Regex.parse (source.map Char.ofNat) with
    | error fault =>
      rw [parsed] at failed
      cases failed
      exact Or.inl ⟨rfl, fault, rfl⟩
    | ok tree =>
      rw [parsed] at failed
      cases failed

end Pattern

/-- What compiles expressions. A compiled expression still shows its text and has a
number of groups, and both can be written; how it matches is up to the engine. The engine
does not know the errors of the library. -/
structure Engine where
  compile : Text → Except Error (Pattern Value)
  compiled : ∀ {regex leaf}, compile regex = .ok leaf →
    leaf.isComplete = true ∧ leaf.isWritable = true ∧ leaf.source = .text regex ∧
      ∃ groups : Nat, leaf.groups = .int groups
  refused : ∀ {regex error}, compile regex = .error error → error.kind.isLexerError = false

/-- The engine of the linear dialect. -/
def Engine.linear : Engine where
  compile := Pattern.compile
  compiled done := by
    obtain ⟨tree, _, rfl⟩ := Pattern.compile_ok done
    exact ⟨rfl, rfl, rfl, tree.groupCount, rfl⟩
  refused failed := by
    rcases Pattern.compile_error failed with ⟨_, _, rfl⟩ | ⟨_, rfl⟩
    · rfl
    · rfl

namespace Lexer

/-- The lexer of a pattern, which needs exactly one group that captures. -/
def ofPattern (value : Value) : Except Error (Lexer Value) :=
  match value with
  | .pattern leaf =>
    if !leaf.isComplete then
      .error (.notAPattern value.typeName)
    else
      match leaf.source with
      | .bytes _ => .error .bytesPattern
      | source =>
        if leaf.groups.sameKey (.int 1) then .ok (.pattern leaf)
        else if leaf.isWritable then .error (.wrongGroupCount source.asText leaf.groups)
        else .error (.digitsOverLimit none)
  | _ => .error (.notAPattern value.typeName)

/-- The lexer of an expression. -/
def ofRegex (value : Value) (engine : Engine := .linear) : Build (Lexer Value) :=
  match value with
  | .text regex =>
    match engine.compile regex with
    | .ok leaf => do
      Traced.note (.compiled regex)
      .ofExcept (ofPattern (.pattern leaf))
    | .error (.syntaxError error) => .fail (.badRegex regex error)
    | .error error => .fail error
  | _ => .fail (.regexNotText value.typeName)

/-- Transforms the tokens of a lexer. -/
def map (lexer : Lexer Value) (mapper : Value) : Except Error (Lexer Value) :=
  if mapper.isCallable then .ok (.mapped lexer mapper.toMapper)
  else .error (.mapperNotCallable mapper.typeName)

/-- Falls back to `other` where the lexer finds no token. -/
def or (lexer : Lexer Value) (other : Value) : Except Error (Lexer Value) :=
  match other with
  | .lexer second => .ok (.orElse lexer second)
  | _ => .error (.alternativeNotLexer other.typeName)

/-- The lexer of an expression with a mapper for its token. -/
def ofRegexMap (regex mapper : Value) (engine : Engine := .linear) : Build (Lexer Value) := do
  let leaf ← ofRegex regex engine
  .ofExcept (leaf.map mapper)

/-- Falls back to an expression with a mapper. -/
def orRegex (lexer : Lexer Value) (regex mapper : Value) (engine : Engine := .linear) :
    Build (Lexer Value) := do
  let branch ← ofRegexMap regex mapper engine
  .ofExcept (lexer.or (.lexer branch))

end Lexer

end TokenLexer
