import TokenLexer.Registry

/-!
# About the library

What the library says about itself: its version, its limits, and the names that it
offers to the outside. Of these names the errors are known by how they end.
-/

namespace TokenLexer

namespace About

def version : String := "0.1.0"

/-- The names on offer, in the order of the documentation. -/
def exports : List String :=
  [ "CompiledPattern", "Mapper", "Lexer", "Empty", "PatternLexer", "Mapped", "Alternative",
    "empty", "from_pattern", "from_regex", "alternatives", "lexer_depth",
    "LexerError", "InvalidPatternError", "InvalidRegexError",
    "RuleConfig", "LexerConfig", "ConfigParseError", "parse_lexer_config",
    "RegistryBuilder", "Registry", "register_core_converters",
    "UnknownConverterError", "InvalidConfigError", "TooManyRulesError", "PatternTooLongError",
    "MAX_RULES", "MAX_REGEX_PATTERN_LENGTH" ]

/-- The errors on offer. -/
def errors : List String :=
  exports.filter (·.endsWith "Error")

/-- What an error on offer is derived from: one of them is derived from the errors of the
language, and the others from this one. -/
def baseOf (error : String) : String :=
  if error = "LexerError" then "Exception" else "LexerError"

/-- What the library says about itself. -/
structure Info where
  version : String
  exports : List String
  maxRules : Nat
  maxRegexLength : Nat
  defaultConvert : Text
  errors : List (String × String)

def info : Info where
  version := version
  exports := exports
  maxRules := Registry.maxRules
  maxRegexLength := Registry.maxRegexLength
  defaultConvert := Rule.defaultConvert
  errors := errors.map fun error => (error, baseOf error)

end About

end TokenLexer
