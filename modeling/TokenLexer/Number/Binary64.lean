import TokenLexer.Text

/-!
# Binary floating point

Numbers of the 64-bit binary format as exact values: a significand below `2 ^ 53`
times a power of two not below `2 ^ (-1074)`. All arithmetic is on whole numbers;
`ofRatio` is the one place that rounds, to the nearest value and to the even one
of two.
-/

namespace TokenLexer

/-- A number of the format, an infinity, or no number. Zero has a sign. What is no number differs
even from itself, but two places can hold the same object: then `object` tells which one. -/
inductive Binary64
  | nan (object : Option Nat := none)
  | infinite (negative : Bool)
  | finite (negative : Bool) (significand : Nat) (exponent : Int)
  deriving DecidableEq, Repr, Inhabited

namespace Binary64

def least : Int := -1074

def greatest : Int := 971

def zero (negative : Bool) : Binary64 :=
  .finite negative 0 least

/-- The power `base ^ exponent`, and one when the exponent is negative. Together with
`power base (-exponent)` it gives `base ^ exponent` as a ratio of whole numbers. -/
def power (base : Nat) (exponent : Int) : Nat :=
  base.pow exponent.toNat

/-- The ratio `numerator / denominator` times `2 ^ exponent` as a ratio of whole numbers. -/
def scale (numerator denominator : Nat) (exponent : Int) : Nat × Nat :=
  (numerator * power 2 exponent, denominator * power 2 (-exponent))

/-- The quotient rounded to the nearest whole number, a half to the even one. -/
def roundDiv (numerator denominator : Nat) : Nat :=
  let quotient := numerator / denominator
  let twice := 2 * (numerator % denominator)
  if twice < denominator ∨ (twice = denominator ∧ quotient % 2 = 0) then quotient
  else quotient + 1

/-- The nearest number to `numerator / denominator`. -/
def ofRatio (negative : Bool) (numerator denominator : Nat) : Binary64 :=
  if numerator = 0 ∨ denominator = 0 then
    zero negative
  else
    let guess : Int := (Nat.log2 numerator : Int) - Nat.log2 denominator - 52
    let (top, bottom) := scale numerator denominator (-guess)
    let exponent := max least (if top / bottom < power 2 52 then guess - 1 else guess)
    let (top, bottom) := scale numerator denominator (-exponent)
    let rounded := roundDiv top bottom
    let (significand, exponent) :=
      if rounded = power 2 53 then (power 2 52, exponent + 1) else (rounded, exponent)
    if exponent > greatest then .infinite negative else .finite negative significand exponent

/-- The nearest number to a whole number. -/
def ofInt (i : Int) : Binary64 :=
  ofRatio (i < 0) i.natAbs 1

/-- The nearest number to `digits * 10 ^ exponent`. -/
def ofDecimal (negative : Bool) (digits : Nat) (exponent : Int) : Binary64 :=
  let magnitude := exponent + (toString digits).length
  if digits = 0 ∨ magnitude < -400 then zero negative
  else if magnitude > 400 then .infinite negative
  else ofRatio negative (digits * power 10 exponent) (power 10 (-exponent))

def neg : Binary64 → Binary64
  | nan _ => nan
  | infinite negative => .infinite !negative
  | finite negative significand exponent => .finite (!negative) significand exponent

def isZero : Binary64 → Bool
  | finite _ significand _ => significand == 0
  | _ => false

/-- Twice the number. -/
def double : Binary64 → Binary64
  | nan _ => nan
  | finite negative significand exponent =>
    let (top, bottom) := scale (2 * significand) 1 exponent
    ofRatio negative top bottom
  | other => other

/-- Whether the number is a whole even number. -/
def isEven : Binary64 → Bool
  | finite _ significand exponent =>
    let (top, bottom) := scale significand 2 exponent
    top % bottom == 0
  | _ => false

/-- The whole part of a finite number. -/
def truncate? : Binary64 → Option Int
  | finite negative significand exponent =>
    let (top, bottom) := scale significand 1 exponent
    some (if negative then -(top / bottom : Nat) else (top / bottom : Nat))
  | _ => none

/-- The number as a signed significand and an exponent. -/
def ratio? : Binary64 → Option (Int × Int)
  | finite negative significand exponent =>
    some (if negative then -(significand : Int) else significand, exponent)
  | _ => none

end Binary64

end TokenLexer
