import TokenLexer.Regex.NamedClass
import TokenLexer.Regex.SyntaxError
import TokenLexer.Regex.Tree

/-!
# Reading a regular expression

An expression is read from left to right with the groups that are still open on
a stack, so the first fault from the left is the one reported. Every piece is
read by a function that takes the text from its first character on and gives
back what follows it.
-/

namespace TokenLexer

namespace Regex

namespace Reading

/-- What reading a piece gives; most pieces come with the text behind them. -/
abbrev Result := Except SyntaxError

/-- How letters and dots are read from here to the end of the group. -/
structure Flags where
  ignoreCase : Bool := false
  multiLine : Bool := false
  dotAll : Bool := false
  lazyFirst : Bool := false
  deriving DecidableEq, Repr

/-- The part of `text` before `rest`, its tail. -/
def consumed (text rest : List Char) : List Char :=
  text.take (text.length - rest.length)

def fail {α : Type} (fault : Fault) (shown : List Char := []) : Result α :=
  .error ⟨fault, shown⟩

/-! ## Escapes -/

private def octal? (c : Char) : Option Nat :=
  if '0' ≤ c ∧ c ≤ '7' then some (c.toNat - 0x30) else none

/-- Up to `count` more octal digits after the value so far. -/
private def octalDigits : Nat → Nat → List Char → Nat × List Char
  | count + 1, value, c :: rest =>
    match octal? c with
    | some digit => octalDigits count (value * 8 + digit) rest
    | none => (value, c :: rest)
  | _, value, rest => (value, rest)

/-- The digits of `\x{…}` from behind the brace, the closing brace included. -/
private def bracedHex (value : Nat) (begun : Bool) :
    List Char → Except (List Char) (Nat × List Char)
  | [] => .error []
  | c :: rest =>
    match CodePoint.hexDigit? c.toNat with
    | some digit =>
      let longer := value * 16 + digit
      if longer > 0x10ffff then .error rest else bracedHex longer true rest
    | none => if c = '}' ∧ begun then .ok (value, rest) else .error rest

/-- One escaped character, read from behind the backslash. On a fault, the text
behind the last character that was looked at. -/
private def escapedBody : List Char → Except (List Char) (CodePoint × List Char)
  | [] => .error []
  | 'n' :: rest => .ok (0x0a, rest)
  | 'r' :: rest => .ok (0x0d, rest)
  | 't' :: rest => .ok (0x09, rest)
  | 'a' :: rest => .ok (0x07, rest)
  | 'f' :: rest => .ok (0x0c, rest)
  | 'v' :: rest => .ok (0x0b, rest)
  | '0' :: rest => .ok (octalDigits 2 0 rest)
  | 'x' :: '{' :: rest => bracedHex 0 false rest
  | 'x' :: high :: low :: rest =>
    match CodePoint.hexDigit? high.toNat, CodePoint.hexDigit? low.toNat with
    | some a, some b => .ok (a * 16 + b, rest)
    | _, _ => .error rest
  | 'x' :: rest => .error (rest.drop 1)
  | c :: rest =>
    match octal? c, rest with
    | some digit, next :: _ =>
      if (octal? next).isSome then .ok (octalDigits 2 digit rest) else .error rest
    | some _, [] => .error rest
    | none, _ => if c.toNat < 0x80 ∧ ¬c.isAlphanum then .ok (c.toNat, rest) else .error rest

/-- One escaped character, read from behind the backslash. -/
def escaped (text : List Char) : Result (CodePoint × List Char) :=
  if text.isEmpty then
    fail .trailingBackslash
  else if text = ['x', '{'] then
    fail .badEncoding
  else
    match escapedBody text with
    | .ok read => .ok read
    | .error rest => fail .badEscape ('\\' :: consumed text rest)

/-! ## Classes -/

/-- A Unicode property, read from behind `\p` or `\P`. -/
def property (negated : Bool) (letter : Char) (text : List Char) : Result (ClassItem × List Char) :=
  let named (name rest : List Char) : Result (ClassItem × List Char) :=
    match NamedClass.ofProperty? name with
    | some item => .ok ({ item with negated := item.negated != negated }, rest)
    | none => fail .badRange ('\\' :: letter :: consumed text rest)
  match text with
  | [] => named [] []
  | '{' :: inside =>
    match inside.dropWhile (· != '}') with
    | [] => fail .badRange ('\\' :: letter :: text)
    | _ :: rest => named (inside.takeWhile (· != '}')) rest
  | c :: rest => named [c] rest

/-- The text before and behind the next `:]`. -/
private def splitAtColon : List Char → Option (List Char × List Char)
  | ':' :: ']' :: rest => some ([], rest)
  | c :: rest => (splitAtColon rest).map fun (name, behind) => (c :: name, behind)
  | [] => none

/-- One character of a range. -/
private def classCharacter (whole : List Char) : List Char → Result (CodePoint × List Char)
  | [] => fail .unclosedClass whole
  | '\\' :: rest => escaped rest
  | c :: rest => .ok (c.toNat, rest)

/-- A character or a range of characters. -/
private def classRange (whole text : List Char) : Result (ClassItem × List Char) := do
  let (low, afterLow) ← classCharacter whole text
  match afterLow with
  | '-' :: next :: rest =>
    if next = ']' then
      return (⟨[(low, low)], false⟩, afterLow)
    else
      let (high, afterHigh) ← classCharacter whole (next :: rest)
      if high < low then fail .badRange (consumed text afterHigh)
      return (⟨[(low, high)], false⟩, afterHigh)
  | _ => return (⟨[(low, low)], false⟩, afterLow)

/-- One item of a bracketed class. -/
private def classItem (whole text : List Char) : Result (ClassItem × List Char) :=
  match text with
  | '[' :: ':' :: inside =>
    match splitAtColon inside with
    | some (name, rest) =>
      match NamedClass.ofBracket? name with
      | some item => .ok (item, rest)
      | none => fail .badRange (consumed text rest)
    | none => classRange whole text
  | '\\' :: 'p' :: c :: rest => property false 'p' (c :: rest)
  | '\\' :: 'P' :: c :: rest => property true 'P' (c :: rest)
  | '\\' :: letter :: rest =>
    match NamedClass.ofLetter? letter with
    | some item => .ok (item, rest)
    | none => classRange whole text
  | _ => classRange whole text

/-- The items up to the closing bracket, which may itself stand first. -/
private def classItems (whole : List Char) :
    Nat → Bool → List Char → Result (List ClassItem × List Char)
  | 0, _, _ => fail .unclosedClass whole
  | _, _, [] => fail .unclosedClass whole
  | more + 1, first, c :: rest => do
    if c = ']' ∧ ¬first then
      return ([], rest)
    let (item, behind) ← classItem whole (c :: rest)
    let (items, last) ← classItems whole more false behind
    return (item :: items, last)

/-- A bracketed class, read from its opening bracket on. -/
def bracketedClass (flags : Flags) (whole : List Char) : Result (CharClass × List Char) := do
  let inside := whole.drop 1
  let negated := inside.head? == some '^'
  let (items, rest) ← classItems whole whole.length true (if negated then inside.drop 1 else inside)
  return (⟨if flags.ignoreCase then items.map ClassItem.ignoringCase else items, negated⟩, rest)

/-! ## Repetitions -/

private def decimal (value : Nat) : List Char → Option (Nat × List Char)
  | c :: rest =>
    if c.isDigit then
      if value ≥ 100000000 then none else decimal (value * 10 + (c.toNat - 0x30)) rest
    else
      some (value, c :: rest)
  | [] => some (value, [])

/-- A number without a superfluous leading zero. -/
private def count? : List Char → Option (Nat × List Char)
  | '0' :: c :: rest => if c.isDigit then none else some (0, c :: rest)
  | c :: rest => if c.isDigit then decimal 0 (c :: rest) else none
  | [] => none

/-- The bounds of a counted repetition, read from its opening brace on; what has
no such form is plain text. -/
def bounds? (text : List Char) : Option ((Nat × Option Nat) × List Char) := do
  let '{' :: inside := text | none
  let (least, rest) ← count? inside
  match rest with
  | '}' :: behind => return ((least, some least), behind)
  | ',' :: '}' :: behind => return ((least, none), behind)
  | ',' :: more =>
    let (most, last) ← count? more
    let '}' :: behind := last | none
    return ((least, some most), behind)
  | _ => none

/-! ## Groups -/

/-- A name is made of letters, marks, digits and connectors. -/
private def isGroupName (name : List Char) : Bool :=
  !name.isEmpty && name.all fun c => c.isAlphanum || Category.nameCharacter.contains c.toNat

/-- How a group opens: with a number of its own, without one, or not at all when
only flags were set. -/
inductive Opening
  | numbered
  | plain (inner : Flags)
  | flagsOnly (flags : Flags)
  deriving DecidableEq, Repr

/-- Flags, read from behind `(?` on. -/
private def flagRun (flags : Flags) (off seen : Bool) :
    List Char → Except (List Char) (Opening × List Char)
  | [] => .error []
  | 'i' :: rest => flagRun { flags with ignoreCase := !off } off true rest
  | 'm' :: rest => flagRun { flags with multiLine := !off } off true rest
  | 's' :: rest => flagRun { flags with dotAll := !off } off true rest
  | 'U' :: rest => flagRun { flags with lazyFirst := !off } off true rest
  | '-' :: rest => if off then .error rest else flagRun flags true false rest
  | ':' :: rest => if off && !seen then .error rest else .ok (.plain flags, rest)
  | ')' :: rest => if off && !seen then .error rest else .ok (.flagsOnly flags, rest)
  | _ :: rest => .error rest

private def named (text name : List Char) : Result (Opening × List Char) :=
  match name.dropWhile (· != '>') with
  | [] => fail .badGroupName text
  | _ :: rest =>
    if isGroupName (name.takeWhile (· != '>')) then .ok (.numbered, rest)
    else fail .badGroupName (consumed text rest)

/-- A group that begins with `(?`, read from its bracket on. -/
def opening (flags : Flags) (text : List Char) : Result (Opening × List Char) :=
  match text.drop 2 with
  | '=' :: _ | '!' :: _ => fail .badGroupOperator (text.take 3)
  | '<' :: '=' :: _ :: _ | '<' :: '!' :: _ :: _ => fail .badGroupOperator (text.take 4)
  | 'P' :: '<' :: first :: name | '<' :: first :: name => named text (first :: name)
  | inside =>
    match flagRun flags false false inside with
    | .ok read => .ok read
    | .error rest => fail .badGroupOperator (consumed text rest)

/-! ## The expression -/

/-- The branches of the group being read, the last first, each with its pieces
in reverse. -/
structure Level where
  finished : List Regex := []
  pieces : List Regex := []
  deriving DecidableEq, Repr

namespace Level

def push (level : Level) (piece : Regex) : Level :=
  { level with pieces := piece :: level.pieces }

/-- The branch being read ends here. -/
def bar (level : Level) : Level :=
  ⟨seqAll level.pieces.reverse :: level.finished, []⟩

def close (level : Level) : Regex :=
  eitherOf level.bar.finished.reverse

end Level

/-- A group that is still open: what it captures, the flags to go back to at its
end, and the level around it. -/
structure Open where
  index : Option Nat
  flags : Flags
  around : Level
  deriving DecidableEq, Repr

structure State where
  flags : Flags := {}
  groups : Nat := 0
  level : Level := {}
  opened : List Open := []
  /-- The repetition operator that ended just here, if one did. -/
  repeat? : List Char := []
  deriving DecidableEq, Repr

namespace State

def push (state : State) (piece : Regex) : State :=
  { state with level := state.level.push piece }

def literal (state : State) (c : CodePoint) : State :=
  state.push (.chars (if state.flags.ignoreCase then .orbit c else .single c))

def item (state : State) (item : ClassItem) : State :=
  state.push (.chars ⟨[if state.flags.ignoreCase then item.ignoringCase else item], false⟩)

def openGroup (state : State) (index : Option Nat) (inner : Flags) : State :=
  { state with
    flags := inner
    level := {}
    opened := ⟨index, state.flags, state.level⟩ :: state.opened }

def openNumbered (state : State) : State :=
  { state.openGroup (some (state.groups + 1)) state.flags with groups := state.groups + 1 }

def closeGroup? (state : State) : Option State :=
  match state.opened with
  | [] => none
  | inner :: others =>
    let inside := state.level.close
    let piece := match inner.index with
      | some index => .group index inside
      | none => inside
    some { state with flags := inner.flags, level := inner.around.push piece, opened := others }

/-- Repeats the last piece. `written` is the operator as it stands. -/
def repeatLast (state : State) (least : Nat) (most : Option Nat) (lazily : Bool)
    (written : List Char) : Result State := do
  if !state.repeat?.isEmpty then
    fail .stackedRepeats (state.repeat? ++ written)
  if most.any (fun count => count < least || count > 1000) || least > 1000 then
    fail .badRepeatSize written
  match state.level.pieces with
  | [] => fail .nothingToRepeat written
  | last :: before =>
    let piece := .repeated last least most (lazily == state.flags.lazyFirst)
    if (least ≥ 2 || most.any (· ≥ 2)) && copiesLeft 1000 piece == 0 then
      fail .badRepeatSize written
    return { state with
      level := { state.level with pieces := piece :: before }
      repeat? := written }

end State

/-- The literal text of `\Q…\E`, and what follows it. -/
def quoted : List Char → List Char × List Char
  | '\\' :: 'E' :: rest => ([], rest)
  | c :: rest =>
    let (inside, behind) := quoted rest
    (c :: inside, behind)
  | [] => ([], [])

/-- Applies a repetition operator, read up to `rest`; a `?` behind it makes it lazy. -/
def repetition (state : State) (least : Nat) (most : Option Nat) (text rest : List Char) :
    Result (State × List Char) := do
  let lazily := rest.head? == some '?'
  let behind := if lazily then rest.drop 1 else rest
  let repeated ← state.repeatLast least most lazily (consumed text behind)
  return (repeated, behind)

/-- What an escape outside a class stands for, read from its backslash on. -/
def escape (state : State) (text : List Char) : Result (State × List Char) := do
  match text.drop 1 with
  | 'b' :: rest => return (state.push (.anchor .wordEdge), rest)
  | 'B' :: rest => return (state.push (.anchor .notWordEdge), rest)
  | 'A' :: rest => return (state.push (.anchor .textStart), rest)
  | 'z' :: rest => return (state.push (.anchor .textEnd), rest)
  | 'C' :: rest => return (state.push (.chars ⟨[⟨[(0, 0x7f)], false⟩], false⟩), rest)
  | 'Q' :: rest =>
    let (inside, behind) := quoted rest
    return (inside.foldl (fun state c => state.literal c.toNat) state, behind)
  | 'p' :: rest =>
    let (item, behind) ← property false 'p' rest
    return (state.item item, behind)
  | 'P' :: rest =>
    let (item, behind) ← property true 'P' rest
    return (state.item item, behind)
  | body =>
    match body with
    | letter :: rest =>
      match NamedClass.ofLetter? letter with
      | some item => return (state.item item, rest)
      | none =>
        let (c, behind) ← escaped body
        return (state.literal c, behind)
    | [] => fail .trailingBackslash

/-- Reads one piece of the expression `whole`. -/
def piece (whole : List Char) (before : State) (text : List Char) :
    Result (State × List Char) :=
  let state := { before with repeat? := [] }
  match text with
  | [] => .ok (state, [])
  | '(' :: '?' :: _ => do
    let (opening, rest) ← opening state.flags text
    match opening with
    | .numbered => return (state.openNumbered, rest)
    | .plain inner => return (state.openGroup none inner, rest)
    | .flagsOnly flags => return ({ state with flags }, rest)
  | '(' :: rest => .ok (state.openNumbered, rest)
  | '|' :: rest => .ok ({ state with level := state.level.bar }, rest)
  | ')' :: rest =>
    match state.closeGroup? with
    | some closed => .ok (closed, rest)
    | none => fail .unopenedGroup whole
  | '^' :: rest =>
    .ok (state.push (.anchor (if state.flags.multiLine then .lineStart else .textStart)), rest)
  | '$' :: rest =>
    .ok (state.push (.anchor (if state.flags.multiLine then .lineEnd else .textEnd)), rest)
  | '.' :: rest =>
    .ok (state.push (.chars (if state.flags.dotAll then .any else .notLineFeed)), rest)
  | '[' :: _ => do
    let (set, rest) ← bracketedClass state.flags text
    return (state.push (.chars set), rest)
  | '*' :: rest => repetition before 0 none text rest
  | '+' :: rest => repetition before 1 none text rest
  | '?' :: rest => repetition before 0 (some 1) text rest
  | '{' :: behind =>
    match bounds? text with
    | some ((least, most), rest) => repetition before least most text rest
    | none => .ok (state.literal '{'.toNat, behind)
  | '\\' :: _ => escape state text
  | c :: rest => .ok (state.literal c.toNat, rest)

/-- Reads pieces to the end; a piece takes at least one character, so as many
steps as there are characters are enough. -/
def pieces (whole : List Char) : Nat → State → List Char → Result State
  | 0, state, _ => .ok state
  | steps + 1, state, text =>
    if text.isEmpty then
      .ok state
    else do
      let (next, rest) ← piece whole state text
      pieces whole steps next rest

end Reading

/-- Reads an expression of the linear dialect. -/
def parse (text : List Char) : Except SyntaxError Regex := do
  let state ← Reading.pieces text text.length {} text
  if state.opened.isEmpty then
    return state.level.close
  else
    Reading.fail .unclosedGroup text

end Regex

end TokenLexer
