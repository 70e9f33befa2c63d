import TokenLexer.Error
import TokenLexer.Number.Shortest
import TokenLexer.Text.Casing

/-!
# Applying functions

What each named function makes of a value, and the error that it raises for a
value it cannot take. What the functions without a name make of it is given.
-/

namespace TokenLexer

namespace Function

/-- The text or the bytes of a value that may spell a number. -/
private def spelling? : Value → Option Text
  | .text t => some t
  | .bytes b => some b
  | _ => Option.none

private def readWhole (base : Nat) (value : Value) (spelled : Text) : Except Error Value :=
  match Number.whole base spelled with
  | .ok i => .ok (.int i)
  | .error .malformed => .error (.badWhole base value)
  | .error (.tooLong digits) => .error (.digitsOverLimit (some digits))

private def toWhole (value : Value) : Except Error Value :=
  match value with
  | .bool b => .ok (.int (if b then 1 else 0))
  | .int i => .ok (.int i)
  | .float (.nan _) => .error .nanToWhole
  | .float x =>
    match x.truncate? with
    | some i => .ok (.int i)
    | Option.none => .error .infinityToWhole
  | _ =>
    match spelling? value with
    | some spelled => readWhole 10 value spelled
    | Option.none => .error (.notConvertible .int value.typeName)

private def roundWhole (i : Int) : Except Error Value :=
  match Binary64.ofInt i with
  | .infinite _ => .error .wholeTooLarge
  | x => .ok (.float x)

private def toFloating (value : Value) : Except Error Value :=
  match value with
  | .bool b => roundWhole (if b then 1 else 0)
  | .int i => roundWhole i
  | .float x => .ok (.float x)
  | _ =>
    match spelling? value with
    | some spelled =>
      match Number.floating? spelled with
      | some x => .ok (.float x)
      | Option.none => .error (.badFloating value)
    | Option.none => .error (.notConvertible .float value.typeName)

private def toText (value : Value) : Except Error Value :=
  if value.isWritable then .ok (.text value.asText) else .error (.digitsOverLimit Option.none)

private def length (value : Value) : Except Error Value :=
  match value with
  | .text t => .ok (.int t.length)
  | .bytes b => .ok (.int b.length)
  | .list items | .tuple items => .ok (.int items.length)
  | .dict entries => .ok (.int entries.length)
  | _ => .error (.noLength value.typeName)

private def twice (value : Value) : Except Error Value :=
  match value with
  | .bool b => .ok (.int (if b then 2 else 0))
  | .int i => .ok (.int (2 * i))
  | .float x => .ok (.float x.double)
  | .text t => .ok (.text (t ++ t))
  | .bytes b => .ok (.bytes (b ++ b))
  | .list items => .ok (.list (items ++ items))
  | .tuple items => .ok (.tuple (items ++ items))
  | _ => .error (.noOperator "*" value.typeName)

private def negative (value : Value) : Except Error Value :=
  match value with
  | .bool b => .ok (.int (if b then -1 else 0))
  | .int i => .ok (.int (-i))
  | .float x => .ok (.float x.neg)
  | _ => .error (.noNegation value.typeName)

private def backwards (value : Value) : Except Error Value :=
  match value with
  | .text t => .ok (.text t.reverse)
  | .bytes b => .ok (.bytes b.reverse)
  | .list items => .ok (.list items.reverse)
  | .tuple items => .ok (.tuple items.reverse)
  | .dict _ => .error (.unhashable "slice")
  | _ => .error (.notSubscriptable value.typeName)

/-- The remainder of a text by two is the text with two filled in, which is no
even number. -/
private def fillTwo (text : Text) : Except Error Value :=
  match Directive.fillOne text with
  | .ok () => .ok .none
  | .error fault => .error (.notFilled fault)

private def whenEven (value : Value) : Except Error Value :=
  match value with
  | .bool b => .ok (if b then .none else value)
  | .int i => .ok (if i % 2 = 0 then value else .none)
  | .float x => .ok (if x.isEven then value else .none)
  | .text t => fillTwo t
  | .bytes _ => .error .bytesNotFilled
  | _ => .error (.noOperator "%" value.typeName)

private def parts (value : Value) : Except Error Value :=
  match value with
  | .text t => .ok (.list (t.map fun c => .text [c]))
  | .bytes b => .ok (.list (b.map fun (x : Nat) => .int x))
  | .list items | .tuple items => .ok (.list items)
  | .dict entries => .ok (.list (entries.map (·.1)))
  | _ => .error (.notIterable value.typeName)

private def recased (function : String) (change : Text → Text) (value : Value) :
    Except Error Value :=
  match value with
  | .text t => .ok (.text (change t))
  | _ => .error (.noCasing function value.typeName)

/-- The value of the function at `value`. Functions without a name do as `others` says. -/
def apply (others : Nat → Value → Except Error Value) : Function → Value → Except Error Value
  | str, value => toText value
  | int, value => toWhole value
  | float, value => toFloating value
  | lower, value => recased "lower" Text.lower value
  | upper, value => recased "upper" Text.upper value
  | hex, value =>
    match spelling? value with
    | some spelled => readWhole 16 value spelled
    | Option.none => .error .baseNeedsText
  | none, _ => .ok .none
  | zero, _ => .ok (.int 0)
  | blank, _ => .ok (.text [])
  | false, _ => .ok (.bool .false)
  | nil, _ => .ok (.list [])
  | len, value => length value
  | double, value => twice value
  | neg, value => negative value
  | identity, value => .ok value
  | reverse, value => backwards value
  | even, value => whenEven value
  | nonblank, value => .ok (if value.isTruthy then value else .none)
  | chars, value => parts value
  | raise, _ => .error (.refused "boom")
  | other serial, value => others serial value

end Function

end TokenLexer
