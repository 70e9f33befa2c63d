import TokenLexer.Text.Table

/-!
# Decimal digits

The decimal digits of every script. The ten digits of a script follow one
another, so the list of zeros says them all.
-/

namespace TokenLexer

private def offsets : Nat → List Nat → List Nat
  | _, [] => []
  | start, gap :: rest => (start + gap) :: offsets (start + gap) rest

private def zeros : List CodePoint :=
  offsets 0 (CodeRanges.numbers
    [ "30 630 90 d0 1a6 80 80 80 80 80 80 80 80 80 6a 80 50 120 50 750 30 136 8a b0 10 c0 60 90",
      "10 89d0 2b0 30 d0 20 60 1a0 5320 590 890 336 8a 46 9a 120 160 80 180 70 70 1b0 70 300",
      "100 50 4cc0 60 90 6c7e a a a a 94a 1b0 660 12a0" ])

/-- The value of a decimal digit of any script. -/
def CodePoint.digit? (c : CodePoint) : Option Nat :=
  if c < 0x80 then
    if 0x30 ≤ c ∧ c ≤ 0x39 then some (c - 0x30) else none
  else
    (zeros.find? fun first => first ≤ c && c < first + 10).map (c - ·)

end TokenLexer
