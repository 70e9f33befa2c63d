import TokenLexer.Text.Quoted

/-!
# Directives in a text

A directive is a percent sign, options and a letter, and stands for a value that
is filled in. A doubled percent sign stands for itself. `fillOne` tells what keeps
one whole number from being filled in.
-/

namespace TokenLexer

namespace Directive

/-- What is wrong with filling one whole number into a text. -/
inductive Fault
  | unusedValue
  | tooFewValues
  | needsNames
  | incomplete
  | widthTooLarge
  | precisionTooLarge
  | badLetter (letter : CodePoint) (index : Nat)
  deriving DecidableEq, Repr

namespace Fault

open Text (ofString)

def message : Fault → Text
  | unusedValue => ofString "not all arguments converted during string formatting"
  | tooFewValues => ofString "not enough arguments for format string"
  | needsNames => ofString "format requires a mapping"
  | incomplete => ofString "incomplete format"
  | widthTooLarge => ofString "width too big"
  | precisionTooLarge => ofString "precision too big"
  | badLetter letter index =>
    ofString "unsupported format character '" ++
      [if 0x1f ≤ letter ∧ letter < 0x7f then letter else 0x3f] ++ ofString "' (0x" ++
      (Quoted.hex 8 letter).dropWhile (· == 0x30) ++ ofString ") at index " ++ Text.ofNat index

end Fault

private def isOption (c : CodePoint) : Bool :=
  (Text.ofString "-+ #0").contains c

/-- The letters that take a whole number. -/
private def isLetter (c : CodePoint) : Bool :=
  (Text.ofString "srcadiuoxXeEfFgG").contains c

/-- Drops a number of at most `limit`, or a star, which takes a value; `left` tells
whether there is one. -/
private def amount (limit : Nat) (fault : Fault) (left : Bool) (text : Text) :
    Except Fault (Bool × Text) :=
  match text with
  | 0x2a :: rest => if left then .ok (false, rest) else .error .tooFewValues
  | _ =>
    let digits := text.takeWhile fun c => 0x30 ≤ c && c ≤ 0x39
    let number := digits.foldl (fun value c => value * 10 + (c - 0x30)) 0
    if number > limit then .error fault else .ok (left, text.drop digits.length)

/-- A directive from behind its percent sign on, in a text of length `size`. -/
private def read (size : Nat) (left : Bool) (text : Text) : Except Fault (Bool × Text) := do
  if text.head? = some 0x28 then
    throw .needsNames
  let (left, rest) ← amount 0x7fffffffffffffff .widthTooLarge left (text.dropWhile isOption)
  let (left, rest) ←
    if rest.head? = some 0x2e then amount 0x7fffffff .precisionTooLarge left (rest.drop 1)
    else .ok (left, rest)
  let rest := if rest.head?.any (Text.ofString "hlL").contains then rest.drop 1 else rest
  match rest with
  | [] => throw .incomplete
  | letter :: behind =>
    if !left then throw .tooFewValues
    if !isLetter letter then throw (.badLetter letter (size - rest.length))
    return (false, behind)

/-- Reads on to the end; a step takes at least one character. -/
private def readAll (size : Nat) : Nat → Bool → Text → Except Fault Unit
  | 0, left, _ | _, left, [] => if left then .error .unusedValue else .ok ()
  | steps + 1, left, 0x25 :: 0x25 :: rest => readAll size steps left rest
  | steps + 1, left, 0x25 :: rest => do
    let (left, behind) ← read size left rest
    readAll size steps left behind
  | steps + 1, left, _ :: rest => readAll size steps left rest

/-- Fills one whole number into a text, and drops what comes out. -/
def fillOne (text : Text) : Except Fault Unit :=
  readAll text.length text.length true text

end Directive

end TokenLexer
