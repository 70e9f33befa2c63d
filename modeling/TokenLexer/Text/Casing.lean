import TokenLexer.Text.Table

/-!
# Lower and upper case

The full case mappings: one character may become several, and a capital sigma at
the end of a word becomes the final one. A sigma ends a word when a cased
character stands before it and none after it, characters that case ignores
(such as an apostrophe) being passed over.
-/

namespace TokenLexer

namespace Casing

/-- A run of `count + 1` characters from `first` on, `stride` apart, mapped to those from
`target` on. -/
structure Run where
  first : CodePoint
  count : Nat
  stride : Nat
  target : CodePoint
  deriving DecidableEq, Repr

private def Run.image? (run : Run) (c : CodePoint) : Option CodePoint :=
  if run.first ≤ c ∧ c ≤ run.first + run.count * run.stride ∧ (c - run.first) % run.stride = 0 then
    some (run.target + (c - run.first))
  else
    none

private def runs : Nat → List Nat → List Run
  | start, gap :: count :: stride :: target :: rest =>
    ⟨start + gap, count, stride, target⟩ :: runs (start + gap) rest
  | _, _ => []

private def lowerRuns : List Run :=
  runs 0 (CodeRanges.numbers
    [ "41 19 1 61 7f 16 1 e0 18 6 1 f8 28 17 2 101 32 2 2 133 7 7 2 13a 11 16 2 14b 2e 0 1 ff 1",
      "2 2 17a 8 0 1 253 1 1 2 183 4 0 1 254 1 0 1 188 2 1 1 256 2 0 1 18c 3 0 1 1dd 1 0 1 259",
      "1 0 1 25b 1 0 1 192 2 0 1 260 1 0 1 263 2 0 1 269 1 0 1 268 1 0 1 199 4 0 1 26f 1 0 1",
      "272 2 0 1 275 1 2 2 1a1 6 0 1 280 1 0 1 1a8 2 0 1 283 3 0 1 1ad 2 0 1 288 1 0 1 1b0 2 1",
      "1 28a 2 1 2 1b4 4 0 1 292 1 0 1 1b9 4 0 1 1bd 8 0 1 1c6 1 0 1 1c6 2 0 1 1c9 1 0 1 1c9 2",
      "0 1 1cc 1 8 2 1cc 13 8 2 1df 13 0 1 1f3 1 1 2 1f3 4 0 1 195 1 0 1 1bf 1 13 2 1f9 28 0 1",
      "19e 2 8 2 223 18 0 1 2c65 1 0 1 23c 2 0 1 19a 1 0 1 2c66 3 0 1 242 2 0 1 180 1 0 1 289 1",
      "0 1 28c 1 4 2 247 12a 1 2 371 6 0 1 377 9 0 1 3f3 7 0 1 3ac 2 2 1 3ad 4 0 1 3cc 2 1 1",
      "3cd 3 10 1 3b1 12 8 1 3c3 2c 0 1 3d7 9 b 2 3d9 1c 0 1 3b8 3 0 1 3f8 2 0 1 3f2 1 0 1 3fb",
      "3 2 1 37b 3 f 1 450 10 1f 1 430 50 10 2 461 2a 1a 2 48b 36 0 1 4cf 1 6 2 4c2 f 2f 2 4d1",
      "61 25 1 561 b6f 25 1 2d00 27 0 1 2d27 6 0 1 2d2d 2d3 4f 1 ab70 50 5 1 13f8 8a0 2a 1 10d0",
      "2d 2 1 10fd 143 4a 2 1e01 9e 0 1 df 2 2f 2 1ea1 68 7 1 1f00 10 5 1 1f10 10 7 1 1f20 10 7",
      "1 1f30 10 5 1 1f40 11 3 2 1f51 f 7 1 1f60 20 7 1 1f80 10 7 1 1f90 10 7 1 1fa0 10 1 1",
      "1fb0 2 1 1 1f70 2 0 1 1fb3 c 3 1 1f72 4 0 1 1fc3 c 1 1 1fd0 2 1 1 1f76 e 1 1 1fe0 2 1 1",
      "1f7a 2 0 1 1fe5 c 1 1 1f78 2 1 1 1f7c 2 0 1 1ff3 12a 0 1 3c9 4 0 1 6b 1 0 1 e5 7 0 1",
      "214e 2e f 1 2170 23 0 1 2184 333 19 1 24d0 74a 2f 1 2c30 60 0 1 2c61 2 0 1 26b 1 0 1",
      "1d7d 1 0 1 27d 3 2 2 2c68 6 0 1 251 1 0 1 271 1 0 1 250 1 0 1 252 2 0 1 2c73 3 0 1 2c76",
      "9 1 1 23f 2 31 2 2c81 6b 1 2 2cec 7 0 1 2cf3 794e 16 2 a641 40 d 2 a681 a2 6 2 a723 10",
      "1e 2 a733 47 1 2 a77a 4 0 1 1d79 1 4 2 a77f d 0 1 a78c 2 0 1 265 3 1 2 a791 6 9 2 a797",
      "14 0 1 266 1 0 1 25c 1 0 1 261 1 0 1 26c 1 0 1 26a 2 0 1 29e 1 0 1 287 1 0 1 29d 1 0 1",
      "ab53 1 7 2 a7b5 10 0 1 a794 1 0 1 282 1 0 1 1d8e 1 1 2 a7c8 9 0 1 a7d1 6 1 2 a7d7 1f 0 1",
      "a7f6 572c 19 1 ff41 4df 27 1 10428 b0 23 1 104d8 c0 12 2 10597 1 4 2 10598 c 6 2 105a4",
      "10 2 2 105b4 8 0 1 105bc 6eb 32 1 10cc0 c20 1f 1 118c0 55a0 1f 1 16e60 7ac0 21 1 1e922" ])

private def upperRuns : List Run :=
  runs 0 (CodeRanges.numbers
    [ "61 19 1 41 54 0 1 39c 2b 16 1 c0 18 6 1 d8 7 0 1 178 2 17 2 100 30 0 1 49 2 2 2 132 7 7",
      "2 139 11 16 2 14a 2f 2 2 179 5 0 1 53 1 0 1 243 3 1 2 182 5 0 1 187 4 0 1 18b 6 0 1 191",
      "3 0 1 1f6 4 0 1 198 1 0 1 23d 4 0 1 220 3 2 2 1a0 7 0 1 1a7 5 0 1 1ac 3 0 1 1af 4 1 2",
      "1b3 5 0 1 1b8 4 0 1 1bc 2 0 1 1f7 6 0 1 1c4 1 0 1 1c4 2 0 1 1c7 1 0 1 1c7 2 0 1 1ca 1 0",
      "1 1ca 2 7 2 1cd f 0 1 18e 2 8 2 1de 13 0 1 1f1 1 0 1 1f1 2 0 1 1f4 4 13 2 1f8 2a 8 2 222",
      "19 0 1 23b 3 1 1 2c7e 3 0 1 241 5 4 2 246 9 0 1 2c6f 1 0 1 2c6d 1 0 1 2c70 1 0 1 181 1 0",
      "1 186 2 1 1 189 3 0 1 18f 2 0 1 190 1 0 1 a7ab 4 0 1 193 1 0 1 a7ac 2 0 1 194 2 0 1 a78d",
      "1 0 1 a7aa 2 0 1 197 1 0 1 196 1 0 1 a7ae 1 0 1 2c62 1 0 1 a7ad 3 0 1 19c 2 0 1 2c6e 1 0",
      "1 19d 3 0 1 19f 8 0 1 2c64 3 0 1 1a6 2 0 1 a7c5 1 0 1 1a9 4 0 1 a7b1 1 0 1 1ae 1 0 1 244",
      "1 1 1 1b1 2 0 1 245 6 0 1 1b7 b 0 1 a7b2 1 0 1 a7b0 a7 0 1 399 2c 1 2 370 6 0 1 376 4 2",
      "1 3fd 31 0 1 386 1 2 1 388 4 10 1 391 11 0 1 3a3 1 8 1 3a3 9 0 1 38c 1 1 1 38e 3 0 1 392",
      "1 0 1 398 4 0 1 3a6 1 0 1 3a0 1 0 1 3cf 2 b 2 3d8 17 0 1 39a 1 0 1 3a1 1 0 1 3f9 1 0 1",
      "37f 2 0 1 395 3 0 1 3f7 3 0 1 3fa 35 1f 1 410 20 f 1 400 11 10 2 460 2a 1a 2 48a 37 6 2",
      "4c1 d 0 1 4c0 2 2f 2 4d0 90 25 1 531 b6f 2a 1 1c90 2d 2 1 1cbd 2fb 5 1 13f0 888 0 1 412",
      "1 0 1 414 1 0 1 41e 1 1 1 421 2 0 1 422 1 0 1 42a 1 0 1 462 1 0 1 a64a f1 0 1 a77d 4 0 1",
      "2c63 11 0 1 a7c6 73 4a 2 1e00 9a 0 1 1e60 6 2f 2 1ea0 5f 7 1 1f08 10 5 1 1f18 10 7 1",
      "1f28 10 7 1 1f38 10 5 1 1f48 11 3 2 1f59 f 7 1 1f68 10 1 1 1fba 2 3 1 1fc8 4 1 1 1fda 2",
      "1 1 1ff8 2 1 1 1fea 2 1 1 1ffa 34 1 1 1fb8 e 0 1 399 12 1 1 1fd8 10 1 1 1fe8 5 0 1 1fec",
      "169 0 1 2132 22 f 1 2160 14 0 1 2183 34c 19 1 24b6 760 2f 1 2c00 31 0 1 2c60 4 0 1 23a 1",
      "0 1 23e 2 2 2 2c67 b 0 1 2c72 3 0 1 2c75 b 31 2 2c80 6b 1 2 2ceb 7 0 1 2cf2 d 25 1 10a0",
      "27 0 1 10c7 6 0 1 10cd 7914 16 2 a640 40 d 2 a680 a2 6 2 a722 10 1e 2 a732 47 1 2 a779 5",
      "4 2 a77e d 0 1 a78b 5 1 2 a790 3 0 1 a7c4 3 9 2 a796 1e 7 2 a7b4 13 1 2 a7c7 9 0 1 a7d0",
      "6 1 2 a7d6 1f 0 1 a7f5 35d 0 1 a7b3 1d 4f 1 13a0 53d1 19 1 ff21 4e7 27 1 10400 b0 23 1",
      "104b0 bf 12 2 10570 1 4 2 10571 c 6 2 1057d 10 2 2 1058d 8 0 1 10595 704 32 1 10c80 c00",
      "1f 1 118a0 55a0 1f 1 16e40 7ac2 21 1 1e900" ])

private def lowerSpecial : List (CodePoint × Text) :=
  [ (0x130, [0x69, 0x307]) ]

private def upperSpecial : List (CodePoint × Text) :=
  [ (0xdf, [0x53, 0x53]), (0x149, [0x2bc, 0x4e]), (0x1f0, [0x4a, 0x30c]),
    (0x390, [0x399, 0x308, 0x301]), (0x3b0, [0x3a5, 0x308, 0x301]), (0x587, [0x535, 0x552]),
    (0x1e96, [0x48, 0x331]), (0x1e97, [0x54, 0x308]), (0x1e98, [0x57, 0x30a]),
    (0x1e99, [0x59, 0x30a]), (0x1e9a, [0x41, 0x2be]), (0x1f50, [0x3a5, 0x313]),
    (0x1f52, [0x3a5, 0x313, 0x300]), (0x1f54, [0x3a5, 0x313, 0x301]),
    (0x1f56, [0x3a5, 0x313, 0x342]), (0x1f80, [0x1f08, 0x399]), (0x1f81, [0x1f09, 0x399]),
    (0x1f82, [0x1f0a, 0x399]), (0x1f83, [0x1f0b, 0x399]), (0x1f84, [0x1f0c, 0x399]),
    (0x1f85, [0x1f0d, 0x399]), (0x1f86, [0x1f0e, 0x399]), (0x1f87, [0x1f0f, 0x399]),
    (0x1f88, [0x1f08, 0x399]), (0x1f89, [0x1f09, 0x399]), (0x1f8a, [0x1f0a, 0x399]),
    (0x1f8b, [0x1f0b, 0x399]), (0x1f8c, [0x1f0c, 0x399]), (0x1f8d, [0x1f0d, 0x399]),
    (0x1f8e, [0x1f0e, 0x399]), (0x1f8f, [0x1f0f, 0x399]), (0x1f90, [0x1f28, 0x399]),
    (0x1f91, [0x1f29, 0x399]), (0x1f92, [0x1f2a, 0x399]), (0x1f93, [0x1f2b, 0x399]),
    (0x1f94, [0x1f2c, 0x399]), (0x1f95, [0x1f2d, 0x399]), (0x1f96, [0x1f2e, 0x399]),
    (0x1f97, [0x1f2f, 0x399]), (0x1f98, [0x1f28, 0x399]), (0x1f99, [0x1f29, 0x399]),
    (0x1f9a, [0x1f2a, 0x399]), (0x1f9b, [0x1f2b, 0x399]), (0x1f9c, [0x1f2c, 0x399]),
    (0x1f9d, [0x1f2d, 0x399]), (0x1f9e, [0x1f2e, 0x399]), (0x1f9f, [0x1f2f, 0x399]),
    (0x1fa0, [0x1f68, 0x399]), (0x1fa1, [0x1f69, 0x399]), (0x1fa2, [0x1f6a, 0x399]),
    (0x1fa3, [0x1f6b, 0x399]), (0x1fa4, [0x1f6c, 0x399]), (0x1fa5, [0x1f6d, 0x399]),
    (0x1fa6, [0x1f6e, 0x399]), (0x1fa7, [0x1f6f, 0x399]), (0x1fa8, [0x1f68, 0x399]),
    (0x1fa9, [0x1f69, 0x399]), (0x1faa, [0x1f6a, 0x399]), (0x1fab, [0x1f6b, 0x399]),
    (0x1fac, [0x1f6c, 0x399]), (0x1fad, [0x1f6d, 0x399]), (0x1fae, [0x1f6e, 0x399]),
    (0x1faf, [0x1f6f, 0x399]), (0x1fb2, [0x1fba, 0x399]), (0x1fb3, [0x391, 0x399]),
    (0x1fb4, [0x386, 0x399]), (0x1fb6, [0x391, 0x342]), (0x1fb7, [0x391, 0x342, 0x399]),
    (0x1fbc, [0x391, 0x399]), (0x1fc2, [0x1fca, 0x399]), (0x1fc3, [0x397, 0x399]),
    (0x1fc4, [0x389, 0x399]), (0x1fc6, [0x397, 0x342]), (0x1fc7, [0x397, 0x342, 0x399]),
    (0x1fcc, [0x397, 0x399]), (0x1fd2, [0x399, 0x308, 0x300]), (0x1fd3, [0x399, 0x308, 0x301]),
    (0x1fd6, [0x399, 0x342]), (0x1fd7, [0x399, 0x308, 0x342]), (0x1fe2, [0x3a5, 0x308, 0x300]),
    (0x1fe3, [0x3a5, 0x308, 0x301]), (0x1fe4, [0x3a1, 0x313]), (0x1fe6, [0x3a5, 0x342]),
    (0x1fe7, [0x3a5, 0x308, 0x342]), (0x1ff2, [0x1ffa, 0x399]), (0x1ff3, [0x3a9, 0x399]),
    (0x1ff4, [0x38f, 0x399]), (0x1ff6, [0x3a9, 0x342]), (0x1ff7, [0x3a9, 0x342, 0x399]),
    (0x1ffc, [0x3a9, 0x399]), (0xfb00, [0x46, 0x46]), (0xfb01, [0x46, 0x49]),
    (0xfb02, [0x46, 0x4c]), (0xfb03, [0x46, 0x46, 0x49]), (0xfb04, [0x46, 0x46, 0x4c]),
    (0xfb05, [0x53, 0x54]), (0xfb06, [0x53, 0x54]), (0xfb13, [0x544, 0x546]),
    (0xfb14, [0x544, 0x535]), (0xfb15, [0x544, 0x53b]), (0xfb16, [0x54e, 0x546]),
    (0xfb17, [0x544, 0x53d]) ]

private def ignorable : CodeRanges :=
  .decode
    [ "27 0 6 0 b 0 23 0 1 0 47 0 4 0 1 0 4 0 2 1 1f7 bf 4 1 4 0 9 1 1 0 fb 6 cf 0 5 0 31 2c 1",
      "0 1 1 1 1 1 0 2c 0 b 5 a a 1 0 23 0 a 14 10 0 65 7 1 9 1 3 21 0 1 0 1e 1a 5b a 3a a 4 0",
      "2 0 18 17 2b 2 2c 0 7 1 6 7 29 39 37 0 1 0 4 7 4 0 3 6 a 1 d 0 f 0 3a 0 4 3 8 0 14 1 1a",
      "0 2 1 39 0 4 1 4 1 2 2 3 0 1e 1 3 0 b 1 39 0 4 4 1 1 4 0 14 1 16 5 1 0 3a 0 2 0 1 3 8 0",
      "7 1 b 1 1e 0 3d 0 c 0 32 0 3 0 37 0 1 2 5 2 1 3 7 1 b 1 1d 0 3a 0 2 0 6 0 5 1 14 1 1c 1",
      "39 1 4 3 8 0 14 1 1d 0 48 0 7 2 1 0 5a 0 2 6 b 8 62 0 2 8 9 0 1 5 4a 1 1b 0 1 0 1 0 37 d",
      "1 4 1 1 5 a 1 23 9 0 66 3 1 5 1 1 2 1 19 1 4 2 10 3 d 0 2 1 6 0 f 0 5e 0 260 2 3b2 2 1d",
      "1 1e 1 1e 1 40 1 1 6 8 0 2 a 3 0 5 0 2d 4 33 0 41 1 22 0 76 2 4 1 9 0 6 2 db 1 2 0 3a 0",
      "1 6 1 0 1 0 2 7 6 9 2 0 27 0 8 1e 31 3 30 0 1 4 1 0 5 0 28 8 c 1 20 3 2 1 1 2 38 0 1 1 3",
      "0 1 2 3a 7 2 1 40 5 52 2 1 c 1 6 4 0 6 0 3 1 32 3e d 0 22 64 1bd 0 1 2 b 2 d 2 d 2 d 1 c",
      "4 8 1 a 0 2 0 2 4 31 4 1 9 1 0 d 0 10 c 33 20 b8b 1 71 2 7d 0 f 0 60 1f 2f 0 1d5 0 24 3",
      "3 4 5 0 5d 5 5d 2 6f16 0 4e2 5 10e 0 62 3 1 9 1 0 1c 3 50 1 e 21 4e 0 17 2 67 2 3 1 8 0",
      "3 0 4 0 19 1 5 0 97 1 1a 11 d 0 26 7 19 a 2e 2 30 0 2 3 2 1 11 0 15 1 42 5 2 1 2 1 c 0 8",
      "0 23 0 b 0 33 0 1 2 2 1 5 1 1 0 1b 0 e 1 5 1 1 0 64 4 9 2 79 0 2 0 4 0 4f30 0 93 10 23d",
      "f 3 0 c f 22 0 2 0 a9 0 7 0 6 0 b 0 23 0 1 0 2f 0 2d 1 43 0 15 2 201 0 e2 0 95 4 405 5 1",
      "29 1 8 246 2 1 1 5 3 28 2 4 0 a5 1 23d 3 183 1 99 a 31 3 7b 0 36 e 29 0 2 1 a 2 31 3 2 1",
      "2 0 4 0 a 0 32 2 24 4 1 7 3e 0 c 1 34 8 a 3 2 0 5f 2 2 0 1 1 6 0 a0 0 3 7 15 1 39 1 3 0",
      "25 6 3 4 c3 7 2 2 1 0 17 0 54 5 1 0 4 1 1 1 ee 3 6 1 1 1 1b 1 55 7 2 0 1 1 6a 0 1 0 2 5",
      "1 0 65 2 2 3 1 4 103 8 1 1 100 1 1 0 4 0 90 3 2 1 4 0 20 9 28 5 2 3 8 0 9 5 2 2 2e c 1 1",
      "196 6 1 5 1 0 52 15 2 6 1 1 1 1 7a 5 3 0 1 1 1 6 1 0 48 1 3 0 1 0 15b 1 153b 8 36b7 4 3b",
      "6 9 3 40b 0 3f 10 40 1 1 1 400b 3 1 6 1 1 c9e 1 1 3 125c 2d 2 16 220 2 9 f 2 6 1e 3 94 2",
      "7bb 36 4 31 8 0 e 0 16 4 1 e 550 6 1 10 2 6 1 1 1 4 105 d 170 0 3d 3 5e0 6 6d 7 aaf 4",
      "c0c01 0 1e 5f 80 ef" ]

private def cased : CodeRanges :=
  .decode
    [ "41 19 6 19 2f 0 a 0 4 0 5 16 1 1e 1 c2 1 3 4 cf 1 1a c0 3 2 1 3 2 1 0 6 0 1 2 1 0 1 13 1",
      "52 1 8a 8 a5 1 25 9 28 b17 25 1 0 5 0 2 2a 2 2 2a0 55 2 5 882 8 7 2a 2 2 40 2b 3f c 1 21",
      "65 115 2 5 2 25 2 5 2 7 1 0 1 0 1 0 1 1e 2 34 1 6 1 0 3 2 1 6 3 3 2 5 4 c 5 2 1 6 105 0",
      "4 0 2 9 1 0 3 4 6 0 1 0 1 0 1 3 1 5 4 0 2 3 5 4 4 0 11 1f 3 1 331 33 716 7b 2 66 6 3 3 1",
      "c 25 1 0 5 0 7912 2d 12 1b 86 4d 1 16 3 3 1 3a 5 1 1 0 1 4 1b 1 3 0 335 2a 5 8 7 4f 4f40",
      "6 c 4 409 19 6 19 4a5 4f 60 23 4 23 74 a 1 e 1 6 1 1 1 a 1 e 1 6 1 1 6c3 32 d 32 bad 3f",
      "5560 3f 6580 54 1 46 1 1 2 0 2 1 2 3 1 b 1 0 1 6 1 40 1 3 2 7 1 6 1 1b 1 3 1 4 1 0 3 6 1",
      "153 2 18 1 18 1 1e 1 18 1 1e 1 18 1 1e 1 18 1 1e 1 18 1 7 734 9 1 13 9e1 43 7ec 19 6 19",
      "6 19" ]

private def mapWith (special : List (CodePoint × Text)) (table : List Run) (c : CodePoint) : Text :=
  match List.lookup c special with
  | some several => several
  | none => [(table.findSome? (·.image? c)).getD c]

/-- The lower case of an English letter; all else stays. -/
def lowerAscii (c : CodePoint) : CodePoint :=
  if 0x41 ≤ c ∧ c ≤ 0x5a then c + 0x20 else c

private def upperAscii (c : CodePoint) : CodePoint :=
  if 0x61 ≤ c ∧ c ≤ 0x7a then c - 0x20 else c

/-- The lower case of one character, read without its neighbours. -/
def lowerOne (c : CodePoint) : Text :=
  if c < 0x80 then [lowerAscii c] else mapWith lowerSpecial lowerRuns c

/-- The one character that the lower case of a character is or begins with. -/
def lowerSimple (c : CodePoint) : CodePoint :=
  (lowerOne c).headD c

/-- The upper case of one character. -/
def upperOne (c : CodePoint) : Text :=
  if c < 0x80 then [upperAscii c] else mapWith upperSpecial upperRuns c

/-- Whether the first character that case does not ignore is cased. -/
private def meetsCased (text : Text) : Bool :=
  match text.dropWhile ignorable.contains with
  | [] => false
  | c :: _ => cased.contains c

/-- Reads on; `before` is what has been read, the nearest character first. -/
private def lowerFrom (before : Text) : Text → Text
  | [] => []
  | c :: rest =>
    let lowered :=
      if c = 0x3a3 then
        if meetsCased before && !meetsCased rest then [0x3c2] else [0x3c3]
      else
        lowerOne c
    lowered ++ lowerFrom (c :: before) rest

end Casing

/-- The text in lower case. -/
def Text.lower (text : Text) : Text :=
  Casing.lowerFrom [] text

/-- The text in upper case. -/
def Text.upper (text : Text) : Text :=
  text.flatMap Casing.upperOne

end TokenLexer
