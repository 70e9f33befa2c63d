/-!
# Texts

A text is a list of code points. Unlike a `String` it may hold lone surrogates,
which a program can build and a strict encoding refuses.
-/

namespace TokenLexer

/-- A Unicode code point, surrogates included. -/
abbrev CodePoint := Nat

/-- A sequence of code points. -/
abbrev Text := List CodePoint

namespace CodePoint

/-- Whether `c` is one half of a surrogate pair. -/
def isSurrogate (c : CodePoint) : Bool :=
  0xd800 ≤ c && c ≤ 0xdfff

/-- A digit, a letter of the English alphabet or an underscore. -/
def isAsciiWord (c : CodePoint) : Bool :=
  (0x30 ≤ c && c ≤ 0x39) || (0x41 ≤ c && c ≤ 0x5a) || c == 0x5f || (0x61 ≤ c && c ≤ 0x7a)

/-- The value of an ASCII hexadecimal digit. -/
def hexDigit? (c : CodePoint) : Option Nat :=
  if 0x30 ≤ c ∧ c ≤ 0x39 then some (c - 0x30)
  else if 0x41 ≤ c ∧ c ≤ 0x46 then some (c - 0x37)
  else if 0x61 ≤ c ∧ c ≤ 0x66 then some (c - 0x57)
  else none

/-- The bytes of a code point in UTF-8. -/
def utf8 (c : CodePoint) : List Nat :=
  if c < 0x80 then [c]
  else if c < 0x800 then [0xc0 + c / 0x40, 0x80 + c % 0x40]
  else if c < 0x10000 then [0xe0 + c / 0x1000, 0x80 + c / 0x40 % 0x40, 0x80 + c % 0x40]
  else [0xf0 + c / 0x40000, 0x80 + c / 0x1000 % 0x40, 0x80 + c / 0x40 % 0x40, 0x80 + c % 0x40]

end CodePoint

namespace Text

/-- The code points of a string. -/
def ofString (s : String) : Text :=
  s.toList.map Char.toNat

/-- The decimal digits of a number. -/
def ofNat (n : Nat) : Text :=
  ofString (toString n)

/-- The decimal digits of a number after its sign. -/
def ofInt (i : Int) : Text :=
  ofString (toString i)

/-- Whether the text has a strict encoding: it holds no lone surrogate. -/
def isWellFormed (text : Text) : Bool :=
  text.all fun c => !c.isSurrogate

/-- The bytes of a well-formed text in UTF-8. -/
def utf8 (text : Text) : List Nat :=
  text.flatMap CodePoint.utf8

/-- The texts in order with `separator` between neighbours. -/
def join (separator : Text) : List Text → Text
  | [] => []
  | [last] => last
  | first :: rest => first ++ separator ++ join separator rest

/-- The part of a text from position `start` up to position `stop`. -/
def slice (text : Text) (start stop : Nat) : Text :=
  (text.take stop).drop start

/-- Whether `a` comes before `b` in code point order, or equals it. -/
def atMost : Text → Text → Bool
  | [], _ => true
  | _ :: _, [] => false
  | a :: as, b :: bs => a < b || (a == b && atMost as bs)

theorem atMost_refl (a : Text) : atMost a a = true := by
  induction a with
  | nil => rfl
  | cons c rest ih => simp [atMost, ih]

theorem atMost_total (a b : Text) : atMost a b = true ∨ atMost b a = true := by
  induction a generalizing b with
  | nil => exact Or.inl rfl
  | cons c rest ih =>
    cases b with
    | nil => exact Or.inr rfl
    | cons d others =>
      have := ih others
      simp only [atMost, Bool.or_eq_true, Bool.and_eq_true, decide_eq_true_eq, beq_iff_eq]
      grind

theorem atMost_trans {a b c : Text} (first : atMost a b = true) (second : atMost b c = true) :
    atMost a c = true := by
  induction a generalizing b c with
  | nil => rfl
  | cons x xs ih =>
    cases b with
    | nil => simp [atMost] at first
    | cons y ys =>
      cases c with
      | nil => simp [atMost] at second
      | cons z zs =>
        simp only [atMost, Bool.or_eq_true, Bool.and_eq_true, decide_eq_true_eq, beq_iff_eq]
          at first second ⊢
        have := @ih ys zs
        grind

theorem atMost_antisymm {a b : Text} (first : atMost a b = true) (second : atMost b a = true) :
    a = b := by
  induction a generalizing b with
  | nil =>
    cases b with
    | nil => rfl
    | cons => simp [atMost] at second
  | cons x xs ih =>
    cases b with
    | nil => simp [atMost] at first
    | cons y ys =>
      simp only [atMost, Bool.or_eq_true, Bool.and_eq_true, decide_eq_true_eq, beq_iff_eq]
        at first second
      have := @ih ys
      grind

end Text

end TokenLexer
