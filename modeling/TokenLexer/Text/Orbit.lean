import TokenLexer.Text.Table

/-!
# Case orbits

Two characters are equal up to case when they lie in one orbit of simple case
folding: `k`, `K` and the Kelvin sign are one orbit.
-/

namespace TokenLexer

namespace Orbit

/-- Runs of two-member orbits: `first`, `first + distance`, repeated `count` more
times every `stride` characters. -/
private def pairRuns : Nat → List Nat → List (List CodePoint)
  | start, gap :: distance :: count :: stride :: rest =>
    let first := start + gap
    (List.range (count + 1)).map (fun i => [first + i * stride, first + i * stride + distance]) ++
      pairRuns first rest
  | _, _ => []

private def pairs : List (List CodePoint) :=
  pairRuns 0 (CodeRanges.numbers
    [ "41 20 9 1 b 20 7 2 1 20 2 2 8 20 2 2 6b 20 f 2 1 20 1 2 6 20 7 2 12 20 2 2 6 1dbf 0 1 20",
      "79 0 1 1 1 17 2 32 1 2 2 7 1 7 2 11 1 16 2 2f 1 2 2 7 c3 0 1 1 d2 0 1 1 1 1 2 4 ce 0 1 1",
      "1 0 1 2 cd 1 1 2 1 0 1 3 4f 0 1 1 ca 0 1 1 cb 0 1 1 1 0 1 2 cd 0 1 1 cf 0 1 1 61 0 1 1",
      "d3 0 1 1 d1 0 1 1 1 0 1 2 a3 0 1 2 d3 0 1 1 d5 0 1 1 82 0 1 1 d6 0 1 1 1 2 2 6 da 0 1 1",
      "1 0 1 2 da 0 1 3 1 0 1 2 da 0 1 1 1 0 1 2 d9 1 1 2 1 1 2 4 db 0 1 1 1 0 1 4 1 0 1 3 38 0",
      "1 e 1 7 2 11 1 8 2 16 1 0 1 4 1 13 2 2a 1 8 2 18 2a2b 0 1 1 1 0 1 3 2a28 0 1 1 2a3f 1 1",
      "2 1 0 1 3 45 0 1 1 47 0 1 1 1 4 2 a 2a1f 0 1 1 2a1c 0 1 1 2a1e 0 1 a a54f 0 1 5 a54b 0 1",
      "4 a528 0 1 1 a544 0 1 4 a544 0 1 1 29f7 0 1 1 a541 0 1 5 29fd 0 1 c 29e7 0 1 5 a543 0 1",
      "5 a52a 0 1 16 a515 0 1 1 a512 0 1 d2 1 1 2 6 1 0 1 5 82 2 1 4 74 0 1 7 26 0 1 2 25 2 1 4",
      "40 0 1 2 3f 1 1 3 20 1 2 3 20 1 2 3 20 0 1 4 20 2 2 3 20 0 1 6 20 1 1 3 20 1 1 3 20 1 1",
      "25 8 0 1 9 1 b 2 1a 7 0 1 5 1 0 1 3 1 0 1 6 50 f 1 10 20 1 1 3 20 6 2 3 20 3 2 a 20 0 1",
      "3 20 6 1 8 20 4 1 35 1 0 1 4 1 e 2 26 1 1a 2 36 f 0 1 1 1 6 2 f 1 2f 2 61 30 25 1 b6f",
      "1c60 25 1 27 1c60 0 1 6 1c60 0 1 3 bc0 2a 1 2d bc0 2 1 2a3 97d0 4f 1 50 8 5 1 989 8a04 0",
      "1 4 ee6 0 1 11 8a38 0 1 72 1 2f 2 62 1 19 2 3e 1 2f 2 60 8 7 1 10 8 5 1 10 8 7 1 10 8 7",
      "1 10 8 5 1 11 8 3 2 f 8 7 1 10 4a 1 1 2 56 3 1 4 64 1 1 2 80 1 1 2 70 1 1 2 7e 1 1 4 8 7",
      "1 10 8 7 1 10 8 7 1 10 8 1 1 3 9 0 1 10 9 0 1 d 8 1 1 10 8 1 1 5 7 0 1 e 9 0 1 13f 1c 0",
      "1 2e 10 f 1 23 1 0 1 333 1a 19 1 74a 30 2f 1 60 1 0 1 7 1 2 2 b 1 0 1 3 1 0 1 b 1 31 2",
      "6b 1 1 2 7 1 0 1 794e 1 4 2 c 1 10 2 34 1 d 2 a2 1 6 2 10 1 1e 2 47 1 1 2 5 1 4 2 d 1 0",
      "1 5 1 1 2 4 30 0 1 2 1 9 2 1d 3a0 0 1 1 1 7 2 13 1 1 2 9 1 0 1 6 1 1 2 1f 1 0 1 572c 20",
      "19 1 4df 28 27 1 b0 28 23 1 c0 27 12 2 1 27 4 2 c 27 6 2 10 27 2 2 8 27 0 1 6eb 40 32 1",
      "c20 20 1f 1 55a0 20 1f 1 7ac0 22 21 1" ])

private def larger : List (List CodePoint) :=
  [ [0x4b, 0x6b, 0x212a], [0x53, 0x73, 0x17f], [0xb5, 0x39c, 0x3bc],
    [0xc5, 0xe5, 0x212b], [0x1c4, 0x1c5, 0x1c6], [0x1c7, 0x1c8, 0x1c9],
    [0x1ca, 0x1cb, 0x1cc], [0x1f1, 0x1f2, 0x1f3], [0x345, 0x399, 0x3b9, 0x1fbe],
    [0x392, 0x3b2, 0x3d0], [0x395, 0x3b5, 0x3f5], [0x398, 0x3b8, 0x3d1, 0x3f4],
    [0x39a, 0x3ba, 0x3f0], [0x3a0, 0x3c0, 0x3d6], [0x3a1, 0x3c1, 0x3f1],
    [0x3a3, 0x3c2, 0x3c3], [0x3a6, 0x3c6, 0x3d5], [0x3a9, 0x3c9, 0x2126],
    [0x412, 0x432, 0x1c80], [0x414, 0x434, 0x1c81], [0x41e, 0x43e, 0x1c82],
    [0x421, 0x441, 0x1c83], [0x422, 0x442, 0x1c84, 0x1c85], [0x42a, 0x44a, 0x1c86],
    [0x462, 0x463, 0x1c87], [0x1c88, 0xa64a, 0xa64b], [0x1e60, 0x1e61, 0x1e9b] ]

/-- Every orbit with more than one member. -/
def all : List (List CodePoint) :=
  pairs ++ larger

/-- The orbit of `c` among `orbits`; a character outside them is alone. -/
def within (orbits : List (List CodePoint)) (c : CodePoint) : List CodePoint :=
  (orbits.find? (·.contains c)).getD [c]

/-- The characters that equal `c` up to case, `c` among them. -/
def ofCodePoint (c : CodePoint) : List CodePoint :=
  within all c

/-- The ranges with every character replaced by its orbit. -/
def closure (ranges : CodeRanges) : CodeRanges :=
  ranges ++ ((all.filter (·.any ranges.contains)).flatten.map fun c => (c, c))

end Orbit

end TokenLexer
