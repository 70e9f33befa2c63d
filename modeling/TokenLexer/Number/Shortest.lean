import TokenLexer.Number.Binary64

/-!
# The shortest decimal text of a number

A number is written with the fewest digits that read back as the same number,
and with the nearest of those. `layout` decides between positional notation and
an exponent.
-/

namespace TokenLexer

namespace Binary64

/-- The real numbers that round to a given one, over one denominator. Both ends
belong to it when `closed`. -/
structure Interval where
  low : Nat
  value : Nat
  high : Nat
  denominator : Nat
  closed : Bool
  deriving DecidableEq, Repr

namespace Interval

/-- The interval of `significand * 2 ^ exponent`; below a power of two the
neighbour is only half as far. -/
def around (significand : Nat) (exponent : Int) : Interval :=
  let (unit, denominator) := scale 1 4 exponent
  let below := if significand = power 2 52 ∧ exponent > least then 1 else 2
  { low := (4 * significand - below) * unit
    value := 4 * significand * unit
    high := (4 * significand + 2) * unit
    denominator := denominator
    closed := significand % 2 == 0 }

/-- Whether `top / bottom` lies in the interval. -/
def holds (interval : Interval) (top bottom : Nat) : Bool :=
  let scaled := top * interval.denominator
  if interval.closed then interval.low * bottom ≤ scaled && scaled ≤ interval.high * bottom
  else interval.low * bottom < scaled && scaled < interval.high * bottom

/-- The exponent of the leading decimal digit. -/
def magnitude (interval : Interval) : Int :=
  if interval.value ≥ interval.denominator then
    (toString (interval.value / interval.denominator)).length - 1
  else
    let inverse := interval.denominator / interval.value
    let digits := (toString inverse).length
    if inverse = power 10 (digits - 1) ∧ interval.denominator % interval.value = 0 then 1 - digits
    else -digits

/-- A decimal of `count` digits in the interval, the nearest to the value. -/
def decimal? (interval : Interval) (count : Nat) : Option (Nat × Int) :=
  let place := interval.magnitude - count + 1
  let (up, down) := (power 10 place, power 10 (-place))
  let top := interval.value * down
  let bottom := interval.denominator * up
  let below := top / bottom
  let fits (digits : Nat) := interval.holds (digits * up) down
  match fits below, fits (below + 1) with
  | true, true => some (roundDiv top bottom, place)
  | true, false => some (below, place)
  | false, true => some (below + 1, place)
  | false, false => none

/-- The shortest decimal in the interval. Seventeen digits always tell two numbers apart. -/
def shortest (interval : Interval) : Nat × Int :=
  ((List.range 17).findSome? fun count => interval.decimal? (count + 1)).getD (0, 0)

end Interval

/-- Drops zeros at the end, raising the exponent. -/
def dropZeros : Nat → Nat × Int → Nat × Int
  | 0, decimal => decimal
  | steps + 1, (digits, exponent) =>
    if digits ≠ 0 ∧ digits % 10 = 0 then dropZeros steps (digits / 10, exponent + 1)
    else (digits, exponent)

private def zeros (count : Nat) : Text :=
  List.replicate count 0x30

/-- Numbers from `10 ^ (-4)` up to `10 ^ 16` are written positionally with a digit
behind the point, others with an exponent of two digits or more. -/
def layout (digits : Nat) (exponent : Int) : Text :=
  let shown := Text.ofNat digits
  let leading := exponent + shown.length - 1
  if leading < -4 ∨ leading ≥ 16 then
    let fraction := if shown.length = 1 then [] else 0x2e :: shown.drop 1
    let size := Text.ofNat leading.natAbs
    shown.take 1 ++ fraction ++ [0x65, if leading < 0 then 0x2d else 0x2b] ++
      zeros (2 - size.length) ++ size
  else if exponent ≥ 0 then
    shown ++ zeros exponent.toNat ++ [0x2e, 0x30]
  else if leading < 0 then
    [0x30, 0x2e] ++ zeros (-leading - 1).toNat ++ shown
  else
    shown.take (leading.toNat + 1) ++ [0x2e] ++ shown.drop (leading.toNat + 1)

/-- The shortest text that reads back as the number. -/
def text : Binary64 → Text
  | nan _ => Text.ofString "nan"
  | infinite negative => Text.ofString (if negative then "-inf" else "inf")
  | finite negative significand exponent =>
    let sign : Text := if negative then [0x2d] else []
    if significand = 0 then
      sign ++ Text.ofString "0.0"
    else
      let (digits, place) := dropZeros 17 (Interval.around significand exponent).shortest
      sign ++ layout digits place

end Binary64

end TokenLexer
