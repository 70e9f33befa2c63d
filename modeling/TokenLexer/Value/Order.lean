import TokenLexer.Sorting
import TokenLexer.Value.Equality

/-!
# Order of values

Texts are in code point order, numbers in numeric order, sequences in the order
of their first difference; other pairs have none.
-/

namespace TokenLexer

namespace Value

/-- Two types that have no order between them. -/
structure Incomparable where
  left : String
  right : String
  deriving DecidableEq, Repr

/-- A number as a signed significand and an exponent. -/
def scaled? : Value → Option (Int × Int)
  | .float x => x.ratio?
  | value => value.whole?.map fun i => (i, 0)

def isNumber : Value → Bool
  | .bool _ | .int _ | .float _ => true
  | _ => false

/-- Below every number, above every number, or neither. -/
def infinity? : Value → Option Bool
  | .float (.infinite negative) => some negative
  | _ => Option.none

def lessNumber (a b : Value) : Bool :=
  match scaled? a, scaled? b with
  | some (x, m), some (y, n) => x * Binary64.power 2 (m - n) < y * Binary64.power 2 (n - m)
  | some _, Option.none => infinity? b == some false
  | Option.none, some _ => infinity? a == some true
  | Option.none, Option.none => infinity? a == some true && infinity? b == some false

mutual

/-- Whether `a` comes before `b`. -/
def less : Value → Value → Except Incomparable Bool
  | .list as, b => match b with
    | .list bs => lessItems as bs
    | _ => .error ⟨"list", b.typeName⟩
  | .tuple as, b => match b with
    | .tuple bs => lessItems as bs
    | _ => .error ⟨"tuple", b.typeName⟩
  | a, b => match a, b with
    | .text s, .text t => .ok (!t.atMost s)
    | .bytes s, .bytes t => .ok (!Text.atMost t s)
    | a, b =>
      if isNumber a && isNumber b then .ok (lessNumber a b)
      else .error ⟨a.typeName, b.typeName⟩

def lessItems : List Value → List Value → Except Incomparable Bool
  | [], bs => .ok !bs.isEmpty
  | _ :: _, [] => .ok false
  | a :: as, b :: bs => if sameKey a b then lessItems as bs else less a b

end

/-- The values in order, equal ones as they came. -/
def sorted (values : List Value) : Except Incomparable (List Value) :=
  Sorting.sort less values

end Value

end TokenLexer
