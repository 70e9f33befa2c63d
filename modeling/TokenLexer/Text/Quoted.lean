import TokenLexer.Text.Printable

/-!
# Quoted texts

How a text is shown inside a message: between single quotes, or between double
quotes when it holds a single quote and no double one. The backslash, the quote
in use and everything that is not printable are escaped. Strings of bytes follow
the same rule, with the bytes outside ASCII escaped too.
-/

namespace TokenLexer

namespace Quoted

private def hexDigit (value : Nat) : CodePoint :=
  if value < 10 then 0x30 + value else 0x57 + value

/-- The last `count` hexadecimal digits of a number. -/
def hex : Nat → Nat → Text
  | 0, _ => []
  | count + 1, value => hex count (value / 16) ++ [hexDigit (value % 16)]

/-- The quote around a text. -/
def mark (text : Text) : CodePoint :=
  if text.contains 0x27 && !text.contains 0x22 then 0x22 else 0x27

/-- The escapes that texts and bytes have in common. -/
private def common? (mark c : CodePoint) : Option Text :=
  if c = mark ∨ c = 0x5c then some [0x5c, c]
  else if c = 0x0a then some (Text.ofString "\\n")
  else if c = 0x0d then some (Text.ofString "\\r")
  else if c = 0x09 then some (Text.ofString "\\t")
  else none

/-- One character as it stands between the quotes. -/
def character (mark c : CodePoint) : Text :=
  (common? mark c).getD <|
    if c.isPrintable then [c]
    else if c < 0x100 then Text.ofString "\\x" ++ hex 2 c
    else if c < 0x10000 then Text.ofString "\\u" ++ hex 4 c
    else Text.ofString "\\U" ++ hex 8 c

/-- One byte as it stands between the quotes. -/
def byte (mark b : Nat) : Text :=
  (common? mark b).getD <|
    if 0x20 ≤ b ∧ b < 0x7f then [b] else Text.ofString "\\x" ++ hex 2 b

end Quoted

/-- The text between quotes. -/
def Text.quoted (text : Text) : Text :=
  let mark := Quoted.mark text
  mark :: text.flatMap (Quoted.character mark) ++ [mark]

/-- Bytes between quotes, with the letter that tells them from a text. -/
def Text.quotedBytes (bytes : List Nat) : Text :=
  let mark := Quoted.mark bytes
  0x62 :: mark :: bytes.flatMap (Quoted.byte mark) ++ [mark]

end TokenLexer
