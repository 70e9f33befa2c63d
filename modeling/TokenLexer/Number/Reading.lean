import TokenLexer.Number.Binary64
import TokenLexer.Text.Blank
import TokenLexer.Text.Digit

/-!
# Reading numbers

Whole and floating numbers as people write them: blanks around, a sign, digits of
any script, single underscores between digits.
-/

namespace TokenLexer

namespace Number

/-- Digits and blanks of other scripts become their ASCII counterparts. What is
neither becomes a question mark, which no number holds. -/
def plain (text : Text) : Text :=
  text.map fun c =>
    if c < 0x7f then c
    else if c.isBlank then 0x20
    else match c.digit? with
      | some digit => 0x30 + digit
      | none => 0x3f

/-- The text without the ASCII blanks around it. -/
def trim (text : Text) : Text :=
  ((text.dropWhile CodePoint.isAsciiBlank).reverse.dropWhile CodePoint.isAsciiBlank).reverse

/-- The sign in front, and what follows it. -/
def signed : Text → Bool × Text
  | 0x2d :: rest => (true, rest)
  | 0x2b :: rest => (false, rest)
  | text => (false, text)

/-- Why a text is no whole number. -/
inductive Refusal
  | malformed
  | tooLong (digits : Nat)
  deriving DecidableEq, Repr

/-- The most decimal digits that are read or written. -/
def digitLimit : Nat := 4300

private def digitIn (base : Nat) (c : CodePoint) : Option Nat :=
  (CodePoint.hexDigit? c).filter (· < base)

/-- Whether no underscore stands first, last or beside another. -/
private def underscoresAreSingle (text : Text) : Bool :=
  text.head? != some 0x5f && text.getLast? != some 0x5f &&
    (text.zip (text.drop 1)).all fun pair => pair != (0x5f, 0x5f)

/-- The digits in front of what is no digit. -/
private def magnitude (base : Nat) (text : Text) : Except Refusal Nat :=
  let isDigit (c : CodePoint) := c == 0x5f || (digitIn base c).isSome
  let run := text.takeWhile isDigit
  let digits := run.filterMap (digitIn base)
  if !underscoresAreSingle run then
    .error .malformed
  else if base = 10 ∧ digits.length > digitLimit then
    .error (.tooLong digits.length)
  else if digits.isEmpty || run.length < text.length then
    .error .malformed
  else
    .ok (digits.foldl (fun value digit => value * base + digit) 0)

/-- Sixteen is the one base with a mark in front, behind which one underscore may stand. -/
private def dropMark (base : Nat) : Text → Text
  | 0x30 :: x :: rest =>
    if base = 16 ∧ (x = 0x78 ∨ x = 0x58) then
      if rest.head? = some 0x5f then rest.drop 1 else rest
    else
      0x30 :: x :: rest
  | text => text

/-- Reads a whole number in base ten or sixteen. -/
def whole (base : Nat) (text : Text) : Except Refusal Int := do
  let (negative, rest) := signed (trim (plain text))
  let value ← magnitude base (dropMark base rest)
  return if negative then -value else value

private def isDecimalDigit (c : CodePoint) : Bool :=
  0x30 ≤ c && c ≤ 0x39

/-- Removes underscores, each of which must stand between two digits. -/
private def dropUnderscores : Option CodePoint → Text → Option Text
  | _, [] => some []
  | before, 0x5f :: rest =>
    if before.any isDecimalDigit && rest.head?.any isDecimalDigit then
      dropUnderscores (some 0x5f) rest
    else
      none
  | _, c :: rest => (dropUnderscores (some c) rest).map (c :: ·)

private def valueOf (digits : Text) : Nat :=
  digits.foldl (fun value c => value * 10 + (c - 0x30)) 0

/-- What follows the digits of an exponent must be nothing. -/
private def exponent? : Text → Option Int
  | [] => some 0
  | e :: rest =>
    let (negative, digits) := signed rest
    if (e = 0x65 ∨ e = 0x45) ∧ digits ≠ [] ∧ digits.all isDecimalDigit then
      some (if negative then -valueOf digits else valueOf digits)
    else
      none

private def unsigned? (negative : Bool) (text : Text) : Option Binary64 :=
  let lowered := text.map fun c => if 0x41 ≤ c ∧ c ≤ 0x5a then c + 0x20 else c
  if lowered = Text.ofString "nan" then
    some .nan
  else if lowered = Text.ofString "inf" ∨ lowered = Text.ofString "infinity" then
    some (.infinite negative)
  else
    let front := text.takeWhile isDecimalDigit
    let behind := text.dropWhile isDecimalDigit
    let pointed := behind.head? == some 0x2e
    let fraction := if pointed then (behind.drop 1).takeWhile isDecimalDigit else []
    let rest := if pointed then (behind.drop 1).dropWhile isDecimalDigit else behind
    if front.isEmpty && fraction.isEmpty then
      none
    else
      (exponent? rest).map fun exponent =>
        .ofDecimal negative (valueOf (front ++ fraction)) (exponent - fraction.length)

/-- Reads a floating number, rounding to the nearest. -/
def floating? (text : Text) : Option Binary64 := do
  let bare ← dropUnderscores none (trim (plain text))
  let (negative, rest) := signed bare
  unsigned? negative rest

end Number

end TokenLexer
