import TokenLexer.Error

/-!
# Configurations

A configuration is a list of rules, each an expression and the name of the
converter for its tokens. It is read from plain data: a dictionary with a list of
dictionaries under `rules`. Reading stops at the first fault of the first bad
rule. Fields at the top level that nobody knows are ignored, those of a rule are
not.
-/

namespace TokenLexer

/-- One rule: its expression and the name of its converter. Both are texts in a
configuration that was read. -/
structure Rule where
  regex : Value
  convert : Value

/-- The rules, in the order in which they are tried. -/
structure Config where
  rules : List Rule

/-- The order in which a set hands out the keys that went into it. It goes by their hashes, so any
order is possible, and all that is known is that no key is lost or comes up twice. -/
structure KeyOrder where
  arrange : List Value → List Value
  perm : ∀ keys, (arrange keys).Perm keys

/-- The order in which the keys went in. -/
def KeyOrder.entered : KeyOrder :=
  ⟨fun keys => keys, fun _ => .refl _⟩

namespace Rule

def defaultConvert : Text :=
  Text.ofString "str"

def regexKey : Value := .text (Text.ofString "regex")

def convertKey : Value := .text (Text.ofString "convert")

/-- The keys that no rule has, in the order of the dictionary. -/
def unknownKeys (entries : List (Value × Value)) : List Value :=
  (entries.map (·.1)).filter fun key => !key.sameKey regexKey && !key.sameKey convertKey

/-- Complains about the keys that no rule has. They come out of a set, and the complaint lists them
in order: so it needs keys that can be ordered and written. -/
def checkKeys (entries : List (Value × Value)) (order : KeyOrder := .entered) :
    Except Error Unit :=
  match Value.sorted (order.arrange (unknownKeys entries)) with
  | .ok [] => .ok ()
  | .ok unknown =>
    if (Value.list unknown).isWritable then .error (.config (.unknownFields unknown))
    else .error (.digitsOverLimit none)
  | .error types => .error (.incomparable types)

def regexOf (entries : List (Value × Value)) : Except Error Text :=
  match Value.find? regexKey entries with
  | some (.text regex) => .ok regex
  | some other => .error (.config (.regexNotText other.typeName))
  | none => .error (.config .noRegex)

def convertOf (entries : List (Value × Value)) : Except Error Text :=
  match Value.find? convertKey entries with
  | some (.text convert) => .ok convert
  | some other => .error (.config (.convertNotText other.typeName))
  | none => .ok defaultConvert

/-- Reads one rule. -/
def ofValue (data : Value) (order : KeyOrder := .entered) : Except Error Rule :=
  match data with
  | .dict entries => do
    let regex ← regexOf entries
    let convert ← convertOf entries
    checkKeys entries order
    return ⟨.text regex, .text convert⟩
  | other => .error (.config (.ruleNotADict other.typeName))

end Rule

namespace Config

def rulesKey : Value := .text (Text.ofString "rules")

/-- Reads a configuration. -/
def ofValue (data : Value) (order : KeyOrder := .entered) : Except Error Config :=
  match data with
  | .dict entries =>
    match Value.find? rulesKey entries with
    | none | some .none => .error (.config .noRules)
    | some (.list items) => do
      let rules ← items.mapM fun item => Rule.ofValue item order
      return ⟨rules⟩
    | some other => .error (.config (.rulesNotAList other.typeName))
  | other => .error (.config (.notADict other.typeName))

/-- The configuration as a value. -/
def toValue (config : Config) : Value :=
  .config (config.rules.map fun rule => (rule.regex, rule.convert))

end Config

end TokenLexer
