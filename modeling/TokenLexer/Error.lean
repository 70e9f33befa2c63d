import TokenLexer.Backtracking.SyntaxError
import TokenLexer.Number.Reading
import TokenLexer.Regex.SyntaxError
import TokenLexer.Text.Directive
import TokenLexer.Value.Order
import TokenLexer.Value.Shown

/-!
# Errors

Every way in which building or using a lexer can fail, by its cause. `kind` sorts
the causes, `message` words them. The causes from `wrongGroupCount` on belong to
the library; the others come from handing a value to something that cannot take
it.
-/

namespace TokenLexer

/-- What is wrong with the data of a configuration. -/
inductive ConfigFault
  | notADict (found : String)
  | noRules
  | rulesNotAList (found : String)
  | ruleNotADict (found : String)
  | noRegex
  | regexNotText (found : String)
  | convertNotText (found : String)
  | unknownFields (fields : List Value)

inductive Error
  | inputNotText (found : String)
  | regexNotText (found : String)
  | notAPattern (found : String)
  | bytesPattern
  | mapperNotCallable (found : String)
  | alternativeNotLexer (found : String)
  | converterNotCallable (name : Value) (found : String)
  | notCallable (found : String)
  | unhashable (found : String)
  | incomparable (types : Value.Incomparable)
  | notJoinable (index : Nat) (found : String)
  | noLength (found : String)
  | notSubscriptable (found : String)
  | notIterable (found : String)
  | noOperator (operator : String) (found : String)
  | noNegation (found : String)
  | notFilled (fault : Directive.Fault)
  | bytesNotFilled
  | noCasing (function : String) (found : String)
  | notConvertible (function : Function) (found : String)
  | baseNeedsText
  | badWhole (base : Nat) (value : Value)
  | digitsOverLimit (count : Option Nat)
  | badFloating (value : Value)
  | nanToWhole
  | infinityToWhole
  | wholeTooLarge
  | refused (word : String)
  | unavailable (word : String)
  | unencodable (text : Text)
  | noAttribute (owner : Value) (name : String)
  | cannotAssign (field : String)
  | cannotDelete (field : String)
  | noSuchField
  | notImplemented
  | notFollowed (field : String)
  | syntaxError (error : Regex.SyntaxError)
  | expressionError (error : Backtracking.SyntaxError)
  | wrongGroupCount (source : Text) (groups : Value)
  | badRegex (regex : Text) (error : Regex.SyntaxError)
  | config (fault : ConfigFault)
  | tooManyRules (count limit : Nat)
  | patternTooLong (length limit : Nat)
  | unknownConverter (name : Value) (available : List Value)
  | invalidConfig (cause : Error)

/-- The sorts of error. Those from `invalidPattern` on are the library's own. -/
inductive ErrorKind
  | type
  | value
  | attribute
  | overflow
  | runtime
  | notImplemented
  | encoding
  | frozen
  | engine
  | expression
  | invalidPattern
  | invalidRegex
  | configParse
  | tooManyRules
  | patternTooLong
  | unknownConverter
  | invalidConfig
  deriving DecidableEq, Repr

namespace ErrorKind

/-- Whether the error is one of the library's own. -/
def isLexerError : ErrorKind → Bool
  | .invalidPattern | .invalidRegex | .configParse | .tooManyRules | .patternTooLong
  | .unknownConverter | .invalidConfig => true
  | _ => false

end ErrorKind

open Text (ofString)

namespace ConfigFault

def message : ConfigFault → Text
  | notADict found => ofString "expected dict, got " ++ ofString found
  | noRules => ofString "missing required field 'rules'"
  | rulesNotAList found => ofString "'rules' must be a list, got " ++ ofString found
  | ruleNotADict found => ofString "rule must be a dict, got " ++ ofString found
  | noRegex => ofString "rule missing required field 'regex'"
  | regexNotText found => ofString "rule regex must be a string, got " ++ ofString found
  | convertNotText found => ofString "rule convert must be a string, got " ++ ofString found
  | unknownFields fields => ofString "rule has unknown fields: " ++ (Value.list fields).shown

end ConfigFault

namespace Error

/-- The complaint, whose message shows the value. For one that cannot be written there is another
complaint. -/
def showing (value : Value) (complaint : Error) : Error :=
  if value.isWritable then complaint else .digitsOverLimit none

@[simp] theorem showing_text (text : Text) (complaint : Error) :
    showing (.text text) complaint = complaint := if_pos rfl

theorem showing_of_writable {value : Value} (writable : value.isWritable = true)
    (complaint : Error) : showing value complaint = complaint := if_pos writable

theorem showing_of_unwritable {value : Value} (long : value.isWritable = false)
    (complaint : Error) : showing value complaint = .digitsOverLimit none := by
  rw [showing, long, if_neg Bool.false_ne_true]

def kind : Error → ErrorKind
  | notFilled .unusedValue | notFilled .tooFewValues | notFilled .needsNames => .type
  | notFilled _ => .value
  | badWhole _ _ | digitsOverLimit _ | badFloating _ | nanToWhole | refused _ => .value
  | infinityToWhole | wholeTooLarge => .overflow
  | unavailable _ => .runtime
  | unencodable _ => .encoding
  | noAttribute _ _ => .attribute
  | cannotAssign _ | cannotDelete _ => .frozen
  | notImplemented | notFollowed _ => .notImplemented
  | syntaxError _ => .engine
  | expressionError _ => .expression
  | wrongGroupCount _ _ => .invalidPattern
  | badRegex _ _ => .invalidRegex
  | config _ => .configParse
  | tooManyRules _ _ => .tooManyRules
  | patternTooLong _ _ => .patternTooLong
  | unknownConverter _ _ => .unknownConverter
  | invalidConfig _ => .invalidConfig
  | _ => .type

/-- The error that this one was raised from. -/
def cause? : Error → Option Error
  | badRegex _ error => some (.syntaxError error)
  | invalidConfig cause => some cause
  | _ => none

private def inQuotes (s : String) : Text :=
  ofString "'" ++ ofString s ++ ofString "'"

/-- A syntax error is handed on as bytes, and shown as such. -/
private def syntaxMessage (error : Regex.SyntaxError) : Text :=
  Text.quotedBytes error.message.utf8

/-- Where the first run of lone surrogates begins, and its length. -/
private def firstSurrogates (text : Text) : Nat × Text :=
  let front := text.takeWhile fun c => !c.isSurrogate
  (front.length, (text.drop front.length).takeWhile CodePoint.isSurrogate)

private def encodingMessage (text : Text) : Text :=
  let (start, run) := firstSurrogates text
  let place :=
    if run.length ≤ 1 then
      ofString "character '" ++ run.flatMap (Quoted.character 0x27) ++ ofString "' in position " ++
        Text.ofNat start
    else
      ofString "characters in position " ++ Text.ofNat start ++ ofString "-" ++
        Text.ofNat (start + run.length - 1)
  ofString "'utf-8' codec can't encode " ++ place ++ ofString ": surrogates not allowed"

private def attributeMessage (owner : Value) (name : String) : Text :=
  let subject := match owner with
    | .mapper (.function f) =>
      if f.typeName = "type" then ofString "type object " ++ inQuotes f.name
      else inQuotes f.typeName ++ ofString " object"
    | _ => inQuotes owner.typeName ++ ofString " object"
  subject ++ ofString " has no attribute " ++ inQuotes name

private def limitMessage (count : Option Nat) : Text :=
  let detail := match count with
    | some digits => ofString ": value has " ++ Text.ofNat digits ++ ofString " digits"
    | none => []
  ofString "Exceeds the limit (" ++ Text.ofNat Number.digitLimit ++
    ofString " digits) for integer string conversion" ++ detail ++
    ofString "; use sys.set_int_max_str_digits() to increase the limit"

private def availableMessage (available : List Value) : Text :=
  if available.isEmpty then ofString " (no converters are registered)"
  else ofString " (registered: " ++ Text.join (ofString ", ") (available.map Value.asText) ++
    ofString ")"

/-- The error in words. -/
def message : Error → Text
  | inputNotText found => ofString "input must be a string, got " ++ ofString found
  | regexNotText found => ofString "regex must be a string, got " ++ ofString found
  | notAPattern found => ofString "expected a compiled pattern, got " ++ ofString found
  | bytesPattern => ofString "bytes patterns cannot match str input"
  | mapperNotCallable found => ofString "mapper must be callable, got " ++ ofString found
  | alternativeNotLexer found => ofString "alternative must be a Lexer, got " ++ ofString found
  | converterNotCallable name found => ofString "converter " ++ name.shown ++
      ofString " must be callable, got " ++ ofString found
  | notCallable found => inQuotes found ++ ofString " object is not callable"
  | unhashable found => ofString "unhashable type: " ++ inQuotes found
  | incomparable types => ofString "'<' not supported between instances of " ++
      inQuotes types.left ++ ofString " and " ++ inQuotes types.right
  | notJoinable index found => ofString "sequence item " ++ Text.ofNat index ++
      ofString ": expected str instance, " ++ ofString found ++ ofString " found"
  | noLength found => ofString "object of type " ++ inQuotes found ++ ofString " has no len()"
  | notSubscriptable found => inQuotes found ++ ofString " object is not subscriptable"
  | notIterable found => inQuotes found ++ ofString " object is not iterable"
  | noOperator operator found => ofString "unsupported operand type(s) for " ++ ofString operator ++
      ofString ": " ++ inQuotes found ++ ofString " and 'int'"
  | noNegation found => ofString "bad operand type for unary -: " ++ inQuotes found
  | notFilled fault => fault.message
  | bytesNotFilled => ofString "not all arguments converted during bytes formatting"
  | noCasing function found => ofString "descriptor " ++ inQuotes function ++
      ofString " for 'str' objects doesn't apply to a " ++ inQuotes found ++ ofString " object"
  | notConvertible function found =>
    let wanted := if function = .int then "a string, a bytes-like object or a real number"
      else "a string or a real number"
    ofString function.name ++ ofString "() argument must be " ++ ofString wanted ++
      ofString ", not " ++ inQuotes found
  | baseNeedsText => ofString "int() can't convert non-string with explicit base"
  | badWhole base value => ofString "invalid literal for int() with base " ++ Text.ofNat base ++
      ofString ": " ++ value.shown.take 200
  | digitsOverLimit count => limitMessage count
  | badFloating value => ofString "could not convert string to float: " ++ value.shown
  | nanToWhole => ofString "cannot convert float NaN to integer"
  | infinityToWhole => ofString "cannot convert float infinity to integer"
  | wholeTooLarge => ofString "int too large to convert to float"
  | refused word | unavailable word => ofString word
  | unencodable text => encodingMessage text
  | noAttribute owner name => attributeMessage owner name
  | cannotAssign field => ofString "cannot assign to field " ++ inQuotes field
  | cannotDelete field => ofString "cannot delete field " ++ inQuotes field
  | noSuchField => ofString "super(type, obj): obj must be an instance or subtype of type"
  | notImplemented => []
  | notFollowed field => ofString "assigning to field " ++ inQuotes field ++
      ofString " is not followed here"
  | syntaxError error => syntaxMessage error
  | expressionError error => error.message
  | wrongGroupCount source groups => ofString "pattern " ++ source.quoted ++
      ofString " must have exactly one capturing group, got " ++ groups.asText
  | badRegex regex error => ofString "invalid regex pattern " ++ regex.quoted ++ ofString ": " ++
      syntaxMessage error
  | config fault => fault.message
  | tooManyRules count limit => ofString "too many rules: " ++ Text.ofNat count ++
      ofString " exceeds maximum " ++ Text.ofNat limit
  | patternTooLong length limit => ofString "pattern length " ++ Text.ofNat length ++
      ofString " exceeds maximum " ++ Text.ofNat limit
  | unknownConverter name available => ofString "unknown converter: " ++ name.shown ++
      availableMessage available
  | invalidConfig cause => ofString "invalid config: " ++ message cause

/-- What a complaint about a configuration says is wrong with it. -/
def source? : Error → Option Text
  | invalidConfig cause => some cause.message
  | _ => none

end Error

end TokenLexer
