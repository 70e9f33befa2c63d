import TokenLexer.Config
import TokenLexer.Lexer.Building
import TokenLexer.Value.Hashing

/-!
# Registries of converters

A registry maps names to converters. It is built by registering one converter
after another, the last one under a name counting, and does not change any more.
It turns a configuration into a lexer: rule by rule, the first rule that cannot be
loaded decides the error.
-/

namespace TokenLexer

/-- The converters by name, in the order in which the names came first. -/
structure Registry where
  converters : List (Value × Mapper Value)

namespace Registry

/-- The most rules that a configuration may have. -/
def maxRules : Nat := 256

/-- The most characters that an expression may have. -/
def maxRegexLength : Nat := 4096

def empty : Registry :=
  ⟨[]⟩

def checkKey (name : Value) : Except Error Unit :=
  match name.unhashable? with
  | some found => .error (.unhashable found)
  | none => .ok ()

/-- Registers a converter under a name, which the complaint about the converter shows. -/
def register (registry : Registry) (name converter : Value) : Except Error Registry := do
  if !converter.isCallable then
    .error (.showing name (.converterNotCallable name converter.typeName))
  checkKey name
  return ⟨Value.insert name converter.toMapper registry.converters⟩

def core : List Function :=
  [.str, .int, .float, .lower, .upper]

/-- Registers the converters that need no setting up, under their own names. -/
def registerCore (registry : Registry) : Except Error Registry :=
  core.foldlM
    (fun registry f => registry.register (.text (Text.ofString f.name)) (.mapper (.function f)))
    registry

/-- The names as they came. -/
def keys (registry : Registry) : List Value :=
  registry.converters.map (·.1)

/-- The number of names. -/
def size (registry : Registry) : Nat :=
  registry.converters.length

/-- The names in order. -/
def names (registry : Registry) : Except Error (List Value) :=
  (Value.sorted registry.keys).mapError .incomparable

/-- The converter under a name. -/
def find? (registry : Registry) (name : Value) : Except Error (Option (Mapper Value)) := do
  checkKey name
  return Value.find? name registry.converters

/-- Whether a converter is registered under the name. -/
def contains (registry : Registry) (name : Value) : Except Error Bool := do
  return (← registry.find? name).isSome

/-- The first name that is no text, with its place. -/
def firstUnjoinable : Nat → List Value → Option (Nat × String)
  | _, [] => none
  | index, .text _ :: rest => firstUnjoinable (index + 1) rest
  | index, name :: _ => some (index, name.typeName)

/-- The complaint about a name that is not registered. It lists the registered
names in order, and so needs names that can be ordered and joined, and then shows
the name. -/
def unknownConverter (registry : Registry) (name : Value) : Error :=
  match registry.names with
  | .error error => error
  | .ok available =>
    match firstUnjoinable 0 available with
    | some (index, found) => .notJoinable index found
    | none => .showing name (.unknownConverter name available)

def lengthOf (regex : Value) : Except Error Nat :=
  match regex with
  | .text t => .ok t.length
  | .bytes b => .ok b.length
  | .list items | .tuple items => .ok items.length
  | .dict entries => .ok entries.length
  | other => .error (.noLength other.typeName)

/-- Only the library's own errors count as faults of the configuration. -/
def blameConfig (error : Error) : Error :=
  if error.kind.isLexerError then .invalidConfig error else error

/-- Loads one rule: its length is looked at first, then its converter, then its
expression. A converter that is `none` would pass for one that is not registered. -/
def loadRule (registry : Registry) (rule : Rule) (engine : Engine := .linear) :
    Build (Lexer Value) := do
  let length ← .ofExcept (lengthOf rule.regex)
  if length > maxRegexLength then
    .fail (.patternTooLong length maxRegexLength)
  match ← .ofExcept (registry.find? rule.convert) with
  | none | some (.inert .none) => .fail (registry.unknownConverter rule.convert)
  | some converter =>
    (Lexer.ofRegexMap rule.regex (.ofMapper converter) engine).mapError blameConfig

/-- Loads the rules behind those that `lexer` was loaded from. -/
def loadOnto (registry : Registry) (engine : Engine) :
    Option (Lexer Value) → List Rule → Build (Lexer Value)
  | lexer, [] => return lexer.getD .empty
  | lexer, rule :: rest => do
    let branch ← registry.loadRule rule engine
    let longer := match lexer with
      | none => branch
      | some first => .orElse first branch
    loadOnto registry engine (some longer) rest

/-- Turns a configuration into a lexer that tries its rules in order. -/
def load (registry : Registry) (config : Config) (engine : Engine := .linear) :
    Build (Lexer Value) := do
  let count := config.rules.length
  if count > maxRules then
    .fail (.tooManyRules count maxRules)
  let lexer ← loadOnto registry engine none config.rules
  Traced.note (.loaded count)
  return lexer

end Registry

end TokenLexer
