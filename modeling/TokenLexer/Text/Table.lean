import TokenLexer.Text

/-!
# Ranges of code points

A set of characters as a list of inclusive ranges, and the compact written form
in which the Unicode tables are kept: hexadecimal numbers with one blank between
them, the gap before a range and then its length less one.
-/

namespace TokenLexer

/-- Inclusive ranges of code points, in any order. -/
abbrev CodeRanges := List (CodePoint × CodePoint)

namespace CodeRanges

/-- Whether some range holds `c`. -/
def contains (ranges : CodeRanges) (c : CodePoint) : Bool :=
  ranges.any fun range => range.1 ≤ c && c ≤ range.2

private def numbersOfLine (line : String) : List Nat :=
  let step (state : Nat × List Nat) (c : Char) : Nat × List Nat :=
    match CodePoint.hexDigit? c.toNat with
    | some digit => (state.1 * 16 + digit, state.2)
    | none => (0, state.1 :: state.2)
  let (last, before) := line.toList.foldl step (0, [])
  (last :: before).reverse

/-- The hexadecimal numbers of a written table, which may go over several lines. -/
def numbers (lines : List String) : List Nat :=
  lines.flatMap numbersOfLine

private def spread : Nat → List Nat → CodeRanges
  | start, gap :: length :: rest =>
    (start + gap, start + gap + length) :: spread (start + gap + length + 1) rest
  | _, _ => []

/-- The ranges of a written table. -/
def decode (lines : List String) : CodeRanges :=
  spread 0 (numbers lines)

end CodeRanges

end TokenLexer
