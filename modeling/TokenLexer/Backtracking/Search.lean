import TokenLexer.Backtracking.Tree
import TokenLexer.Text.Blank
import TokenLexer.Text.Casing
import TokenLexer.Text.Category

/-!
# Matching by backtracking

An expression is matched against what lies ahead and hands every way to match, in
order of preference, to what is to be matched behind it; the first way in which
all of it succeeds is taken. An optional round of a repetition starts only where
the optional round before it did not start, so no repetition goes on for ever
without taking a character.
-/

namespace TokenLexer

namespace Backtracking

/-- A letter or number of any script, or an underscore. -/
def isWord (ascii : Bool) (c : CodePoint) : Bool :=
  if ascii || c < 0x80 then c.isAsciiWord else Category.letterOrNumber.contains c

/-- A place in the text: what was read, the last character first, what lies
ahead, and what each group captured last. -/
structure Cursor where
  before : Text
  rest : Text
  captures : List (Nat × Text)
  deriving DecidableEq, Repr

namespace Cursor

def start (text : Text) : Cursor :=
  ⟨[], text, []⟩

/-- The cursor behind the next `count` characters. -/
def forward (cursor : Cursor) (count : Nat) : Cursor :=
  { cursor with
    before := (cursor.rest.take count).reverse ++ cursor.before
    rest := cursor.rest.drop count }

/-- The cursor before the last `count` characters. -/
def back (cursor : Cursor) (count : Nat) : Cursor :=
  { cursor with
    before := cursor.before.drop count
    rest := (cursor.before.take count).reverse ++ cursor.rest }

def capture (cursor : Cursor) (index : Nat) (text : Text) : Cursor :=
  { cursor with captures := (index, text) :: cursor.captures.filter (·.1 != index) }

def atWordEdge (cursor : Cursor) (ascii : Bool) : Bool :=
  cursor.before.head?.any (isWord ascii) != cursor.rest.head?.any (isWord ascii)

end Cursor

namespace Place

def holds (place : Place) (cursor : Cursor) : Bool :=
  match place with
  | .textStart => cursor.before.isEmpty
  | .textEnd => cursor.rest.isEmpty
  | .lastLineEnd => cursor.rest.isEmpty || cursor.rest == [0x0a]
  | .lineStart => cursor.before.head?.all (· == 0x0a)
  | .lineEnd => cursor.rest.head?.all (· == 0x0a)
  | .wordEdge ascii => cursor.atWordEdge ascii
  | .notWordEdge ascii =>
    !(cursor.before.isEmpty && cursor.rest.isEmpty) && !cursor.atWordEdge ascii

end Place

/-- What is to be matched behind an expression. -/
abbrev Continuation := Cursor → Option Cursor

/-- One way of matching, handed on to what comes behind. -/
abbrev Matcher := Continuation → Continuation

namespace Matcher

/-- As many rounds as are still due. -/
def rounds (body : Matcher) : Nat → Matcher
  | 0, next => next
  | due + 1, next => body (rounds body due next)

/-- Up to `room` optional rounds, each one preferred to stopping or not. `last` is
what lay ahead when the optional round before began. -/
def optional (body : Matcher) (greedy : Bool) : Nat → Option Text → Matcher
  | 0, _, next => next
  | room + 1, last, next => fun cursor =>
    if last = some cursor.rest then
      next cursor
    else
      let again := fun (_ : Unit) => body (optional body greedy room (some cursor.rest) next) cursor
      if greedy then (again ()).or (next cursor) else (next cursor).or (again ())

end Matcher

/-- Whether two texts are the same, up to case if that is what likeness means. -/
def Likeness.holds (likeness : Likeness) (a b : Text) : Bool :=
  match likeness with
  | .exact => a == b
  | .asciiCase => a.map Casing.lowerAscii == b.map Casing.lowerAscii
  | .anyCase => a.map Casing.lowerSimple == b.map Casing.lowerSimple

/-- Matches an expression and then what comes behind it. A round takes at least
one character or is the last, so an unbounded repetition has no more optional
rounds than characters ahead, and one. -/
def run : Tree → Matcher
  | .empty, next => next
  | .chars set, next => fun cursor =>
    match cursor.rest with
    | c :: _ => if set.contains c then next (cursor.forward 1) else none
    | [] => none
  | .place condition, next => fun cursor => if condition.holds cursor then next cursor else none
  | .seq first second, next => run first (run second next)
  | .either first second, next => fun cursor => (run first next cursor).or (run second next cursor)
  | .repeated body least most greedy, next =>
    Matcher.rounds (run body) least fun cursor =>
      let room := match most with
        | some most => min (most - least) (cursor.rest.length + 1)
        | none => cursor.rest.length + 1
      Matcher.optional (run body) greedy room none next cursor
  | .group index body, next => fun cursor =>
    run body (fun inner =>
      next (inner.capture index
        ((inner.before.take (cursor.rest.length - inner.rest.length)).reverse))) cursor
  | .backReference index likeness, next => fun cursor =>
    match cursor.captures.lookup index with
    | some text =>
      if likeness.holds text (cursor.rest.take text.length) then
        next (cursor.forward text.length)
      else
        none
    | none => none
  | .ahead negated body, next => fun cursor =>
    match run body some cursor, negated with
    | some inner, false => next { cursor with captures := inner.captures }
    | none, true => next cursor
    | _, _ => none
  | .behind negated width body, next => fun cursor =>
    let found :=
      if cursor.before.length < width then none
      else run body some (cursor.back width)
    match found, negated with
    | some inner, false => next { cursor with captures := inner.captures }
    | none, true => next cursor
    | _, _ => none

namespace Tree

/-- What group 1 captured in the preferred match of the whole text, if the text
matches. -/
def captureIn (tree : Tree) (text : Text) : Option (Option Text) :=
  (run tree (fun cursor => if cursor.rest.isEmpty then some cursor else none) (.start text)).map
    fun cursor => cursor.captures.lookup 1

end Tree

end Backtracking

end TokenLexer
