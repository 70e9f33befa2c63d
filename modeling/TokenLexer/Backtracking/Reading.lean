import TokenLexer.Backtracking.Search
import TokenLexer.Backtracking.SyntaxError

/-!
# Reading an expression of the backtracking dialect

The expression is read from left to right with the open groups on a stack. A
fault is reported with the position where it was noticed. With the flag for
spaced expressions, blanks and comments between the pieces do not count.
-/

namespace TokenLexer

namespace Backtracking

namespace Reading

abbrev Result := Except SyntaxError

/-- What follows `s` in a text that begins with it. -/
def after? (s : String) (text : Text) : Option Text :=
  let mark := Text.ofString s
  if text.take mark.length = mark then some (text.drop mark.length) else none

/-! ## Characters -/

private def blanks : CodeRanges :=
  [(0x09, 0x0d), (0x1c, 0x20), (0x85, 0x85), (0xa0, 0xa0), (0x1680, 0x1680), (0x2000, 0x200a),
    (0x2028, 0x2029), (0x202f, 0x202f), (0x205f, 0x205f), (0x3000, 0x3000)]

private def asciiWord : CodeRanges :=
  [(0x30, 0x39), (0x41, 0x5a), (0x5f, 0x5f), (0x61, 0x7a)]

/-- The class of an escape letter in lower case. -/
private def category? (ascii : Bool) (letter : Char) : Option CodeRanges :=
  match letter, ascii with
  | 'd', true => some [(0x30, 0x39)]
  | 'd', false => Category.find? "Nd"
  | 's', true => some [(0x09, 0x0d), (0x20, 0x20)]
  | 's', false => some blanks
  | 'w', true => some asciiWord
  | 'w', false => some (asciiWord ++ Category.letterOrNumber)
  | _, _ => none

/-- The class of an escape letter; upper case is the opposite of lower case. -/
private def classOf? (flags : Flags) (c : CodePoint) : Option ClassItem :=
  let letter := Char.ofNat c
  if letter.isUpper then
    (category? flags.ascii letter.toLower).map fun ranges => ⟨ranges, true⟩
  else
    (category? flags.ascii letter).map fun ranges => ⟨ranges, false⟩

/-- Letters that are equal up to case but lie in no common orbit: those with and
without a dot, and those that have two forms of one upper case. -/
private def furtherOrbits : List (List CodePoint) :=
  [[0x49, 0x69, 0x130, 0x131], [0x390, 0x1fd3], [0x3b0, 0x1fe3], [0xfb05, 0xfb06]]

private def recased (flags : Flags) (ranges : CodeRanges) : CodeRanges :=
  if !flags.ignoreCase then
    ranges
  else if flags.ascii then
    ranges ++ (((List.range 26).map fun i => [0x41 + i, 0x61 + i]).filter
      (·.any ranges.contains)).flatten.map fun c => (c, c)
  else
    Orbit.closure ranges ++
      ((furtherOrbits.filter (·.any ranges.contains)).flatten.map fun c => (c, c))

private def likenessOf (flags : Flags) : Likeness :=
  if !flags.ignoreCase then .exact else if flags.ascii then .asciiCase else .anyCase

private def literal (flags : Flags) (c : CodePoint) : Tree :=
  .chars ⟨[⟨recased flags [(c, c)], false⟩], false⟩

private def simpleEscape? (c : CodePoint) : Option CodePoint :=
  match Char.ofNat c with
  | 'a' => some 0x07
  | 'f' => some 0x0c
  | 'n' => some 0x0a
  | 'r' => some 0x0d
  | 't' => some 0x09
  | 'v' => some 0x0b
  | _ => none

private def isOctal (c : CodePoint) : Bool :=
  0x30 ≤ c && c ≤ 0x37

private def isDigit (c : CodePoint) : Bool :=
  0x30 ≤ c && c ≤ 0x39

private def numeral (base : Nat) (digits : Text) : Nat :=
  digits.foldl (fun value c => value * base + (CodePoint.hexDigit? c).getD 0) 0

private def isAsciiLetter (c : CodePoint) : Bool :=
  (0x41 ≤ c && c ≤ 0x5a) || (0x61 ≤ c && c ≤ 0x7a)

/-! ## Faults -/

/-- The position at which `rest` begins. -/
def positionOf (whole rest : Text) : Nat :=
  whole.length - rest.length

/-- Complains about the expression `whole` at the place where `rest` begins. -/
private def failAt {α : Type} (whole rest : Text) (fault : Fault) : Result α :=
  .error ⟨fault, whole, some (positionOf whole rest)⟩

/-- The next character, together with the one behind it if it is a backslash. -/
private def token (text : Text) : Text :=
  if text.head? = some 0x5c then text.take 2 else text.take 1

private def badEscape {α : Type} (whole text : Text) : Result α :=
  failAt whole text (.badEscape (text.take 2))

/-! ## Characters given by their numbers -/

/-- Exactly `count` hexadecimal digits behind a backslash and a letter. -/
private def hexEscape (whole text : Text) (count : Nat) : Result (Nat × Text) := do
  let digits := ((text.drop 2).take count).takeWhile fun c => (CodePoint.hexDigit? c).isSome
  if digits.length < count then
    failAt whole text (.cutEscape (text.take (2 + digits.length)))
  let value := numeral 16 digits
  if value > 0x10ffff then
    failAt whole text (.badEscape (text.take (2 + count)))
  return (value, text.drop (2 + count))

/-- Up to three octal digits behind a backslash. -/
private def octalEscape (whole text : Text) : Result (Nat × Text) := do
  let digits := ((text.drop 1).take 3).takeWhile isOctal
  let value := numeral 8 digits
  if value > 0o377 then
    failAt whole text (.octalOverLimit (text.take (1 + digits.length)))
  return (value, text.drop (1 + digits.length))

/-- A character given by its number, read from its backslash on. -/
private def numbered? (whole text : Text) : Option (Result (Nat × Text)) :=
  match text.drop 1 with
  | c :: _ =>
    match Char.ofNat c with
    | 'x' => some (hexEscape whole text 2)
    | 'u' => some (hexEscape whole text 4)
    | 'U' => some (hexEscape whole text 8)
    | '0' => some (octalEscape whole text)
    | _ => none
  | [] => none

/-! ## Classes -/

/-- An escape inside a class, read from its backslash on. -/
private def classEscape (flags : Flags) (whole text : Text) : Result (ClassItem × Text) :=
  match text with
  | _ :: c :: rest =>
    match classOf? flags c, numbered? whole text, simpleEscape? c with
    | some item, _, _ => .ok (item, rest)
    | _, some read, _ => do
      let (value, behind) ← read
      return (⟨[(value, value)], false⟩, behind)
    | _, _, some value => .ok (⟨[(value, value)], false⟩, rest)
    | _, _, _ =>
      if c = 0x62 then
        .ok (⟨[(0x08, 0x08)], false⟩, rest)
      else if isOctal c then do
        let (value, behind) ← octalEscape whole text
        return (⟨[(value, value)], false⟩, behind)
      else if isAsciiLetter c || isDigit c then
        badEscape whole text
      else
        .ok (⟨[(c, c)], false⟩, rest)
  | _ => failAt whole text (.badEscape (Text.ofString "(end of pattern)"))

/-- One character or class of characters, and whether it may begin a range. -/
private def classAtom (flags : Flags) (whole text : Text) : Result ((ClassItem × Bool) × Text) :=
  match text with
  | 0x5c :: c :: _ => do
    let (item, rest) ← classEscape flags whole text
    return ((item, (classOf? flags c).isNone), rest)
  | c :: rest => .ok ((⟨[(c, c)], false⟩, true), rest)
  | [] => failAt whole text .unclosedClass

private def lowest (item : ClassItem) : CodePoint :=
  (item.ranges.map (·.1)).headD 0

/-- The items up to the closing bracket, which may itself stand first. -/
private def classItems (flags : Flags) (whole start : Text) :
    Nat → Bool → Text → Result (List ClassItem × Text)
  | 0, _, _ => failAt whole start .unclosedClass
  | _, _, [] => failAt whole start .unclosedClass
  | more + 1, first, text@(c :: behind) => do
    if c = 0x5d ∧ ¬first then
      return ([], behind)
    let ((low, single), afterLow) ← classAtom flags whole text
    match afterLow with
    | 0x2d :: 0x5d :: rest => return ([low, ⟨[(0x2d, 0x2d)], false⟩], rest)
    | 0x2d :: next :: rest =>
      let ((high, alsoSingle), afterHigh) ← classAtom flags whole (next :: rest)
      if !single || !alsoSingle || lowest high < lowest low then
        let shown := token text ++ [0x2d] ++ token (next :: rest)
        .error ⟨.badRange shown, whole, some (positionOf whole afterHigh - shown.length)⟩
      let (items, last) ← classItems flags whole start more false afterHigh
      return (⟨[(lowest low, lowest high)], false⟩ :: items, last)
    | _ =>
      let (items, last) ← classItems flags whole start more false afterLow
      return (low :: items, last)

/-- A bracketed class, read from its opening bracket on. -/
private def bracketed (flags : Flags) (whole text : Text) : Result (Tree × Text) := do
  let inside := text.drop 1
  let negated := inside.head? == some 0x5e
  let (items, rest) ←
    classItems flags whole text text.length true (if negated then inside.drop 1 else inside)
  let items := items.map fun item => { item with ranges := recased flags item.ranges }
  return (.chars ⟨items, negated⟩, rest)

/-! ## Groups -/

/-- How the last piece may be repeated. -/
inductive Role
  | atom
  | place
  | repetition
  deriving DecidableEq, Repr

/-- The branches of the group being read, the last first, each with its pieces
in reverse. -/
structure Level where
  finished : List Tree := []
  pieces : List (Tree × Role) := []

namespace Level

def bar (level : Level) : Level :=
  ⟨Tree.seqAll (level.pieces.reverse.map (·.1)) :: level.finished, []⟩

def close (level : Level) : Tree :=
  Tree.eitherOf level.bar.finished.reverse

end Level

/-- What a group does with what is inside it. -/
inductive Purpose
  | capture (index : Nat)
  | plain
  | ahead (negated : Bool)
  | behind (negated : Bool)
  deriving DecidableEq, Repr

structure Open where
  purpose : Purpose
  flags : Flags
  start : Nat
  around : Level

structure State where
  flags : Flags
  groups : Nat := 0
  names : List (Text × Nat) := []
  openWidth : Bool := false
  level : Level := {}
  opened : List Open := []

namespace State

def push (state : State) (tree : Tree) (role : Role := .atom) : State :=
  { state with level := { state.level with pieces := (tree, role) :: state.level.pieces } }

def openGroup (state : State) (purpose : Purpose) (inner : Flags) (start : Nat) : State :=
  { state with
    flags := inner
    level := {}
    opened := ⟨purpose, state.flags, start, state.level⟩ :: state.opened }

def openCapture (state : State) (start : Nat) : State :=
  { state.openGroup (.capture (state.groups + 1)) state.flags start with
    groups := state.groups + 1 }

/-- Whether a group is still open. -/
def isOpen (state : State) (index : Nat) : Bool :=
  state.opened.any (·.purpose == .capture index)

/-- Pushes a group that has been closed. Looking behind over no fixed number of
characters is remembered. -/
private def pushGroup (state : State) (purpose : Purpose) (inside : Tree) : State :=
  match purpose with
  | .capture index => state.push (.group index inside)
  | .plain => state.push inside
  | .ahead negated => state.push (.ahead negated inside)
  | .behind negated =>
    match inside.width? with
    | some width => state.push (.behind negated width inside)
    | none => { state.push .empty with openWidth := true }

/-- Closes the innermost group, at the bracket that `text` begins with. -/
def closeGroup (state : State) (whole text : Text) : Result State := do
  match state.opened with
  | [] => failAt whole text .unopenedGroup
  | inner :: others =>
    let outside := { state with flags := inner.flags, level := inner.around, opened := others }
    return outside.pushGroup inner.purpose state.level.close

/-- Refers to a group, at the place where `text` begins. -/
private def reference (state : State) (index : Nat) (whole text : Text) : Result State :=
  if state.isOpen index then failAt whole text .openReference
  else .ok (state.push (.backReference index (likenessOf state.flags)))

end State

private def isName (name : Text) : Bool :=
  !name.isEmpty && !name.head?.any isDigit && name.all (isWord false)

/-- The name up to a closing bracket. -/
private def nameUpTo (bracket : Char) (whole inside : Text) : Result Text := do
  let name := inside.takeWhile (· != bracket.toNat)
  if name.isEmpty then
    failAt whole inside .noName
  if name.length = inside.length then
    failAt whole inside (.unclosedName bracket.toString)
  if !isName name then
    failAt whole inside (.badName name)
  return name

/-- A group with a name, read from behind the opening angle. -/
private def named (state : State) (whole text inside : Text) : Result (State × Text) := do
  let name ← nameUpTo '>' whole inside
  let next := state.openCapture (positionOf whole text)
  if let some earlier := state.names.lookup name then
    failAt whole inside (.takenName name next.groups earlier)
  return ({ next with names := (name, next.groups) :: state.names }, inside.drop (name.length + 1))

/-- A reference to a group by its name, read from behind the equals sign. -/
private def namedReference (state : State) (whole inside : Text) : Result (State × Text) := do
  let name ← nameUpTo ')' whole inside
  match state.names.lookup name with
  | none => failAt whole inside (.unknownName name)
  | some index => return (← state.reference index whole inside, inside.drop (name.length + 1))

/-! ### Flags -/

/-- What a letter sets, or takes away. -/
private def flag? (flags : Flags) (on : Bool) (letter : Char) : Option Flags :=
  match letter with
  | 'i' => some { flags with ignoreCase := on }
  | 's' => some { flags with dotAll := on }
  | 'm' => some { flags with multiLine := on }
  | 'x' => some { flags with spaced := on }
  | 'a' => some { flags with ascii := on }
  | 'u' => some { flags with ascii := !on }
  | _ => none

private def letters : CodeRanges :=
  (Category.find? "L").getD []

/-- What is here instead of a flag. -/
private def notFlag {α : Type} (whole text : Text) (wanted : String) : Result α :=
  failAt whole text <|
    if text.head?.any letters.contains then .unknownFlag else .missing wanted

/-- Flags that are taken away, up to a colon; `set` and `unset` are the letters
before and behind the dash. -/
private def flagsOff (whole : Text) (set unset : Text) (flags : Flags) :
    Text → Result (Flags × Text)
  | [] => failAt whole [] (.missing (if unset.isEmpty then "flag" else ":"))
  | c :: rest =>
    match flag? flags false (Char.ofNat c) with
    | some less =>
      if c = 0x61 ∨ c = 0x75 then failAt whole rest .permanentFlag
      else flagsOff whole set (c :: unset) less rest
    | none =>
      if c ≠ 0x3a ∨ unset.isEmpty then
        notFlag whole (c :: rest) (if unset.isEmpty then "flag" else ":")
      else if unset.any set.contains then
        failAt whole (c :: rest) .contraryFlags
      else
        .ok (flags, rest)

/-- Flags up to a colon or a closing bracket, and whether it was a colon; `set`
are the letters before. -/
private def flagRun (whole : Text) (set : Text) (flags : Flags) :
    Text → Result (Flags × Bool × Text)
  | [] => failAt whole [] (.missing "-, : or )")
  | c :: rest =>
    match Char.ofNat c, flag? flags true (Char.ofNat c) with
    | _, some more => flagRun whole (c :: set) more rest
    | '-', _ => do
      let (flags, behind) ← flagsOff whole set [] flags rest
      return (flags, true, behind)
    | ':', _ => .ok (flags, true, rest)
    | ')', _ => .ok (flags, false, rest)
    | _, _ => notFlag whole (c :: rest) "-, : or )"

/-- A group that begins with `(?`, read from its bracket on. -/
private def extended (state : State) (whole text : Text) : Result (State × Text) := do
  let start := positionOf whole text
  let opening (purpose : Purpose) (rest : Text) : Result (State × Text) :=
    .ok (state.openGroup purpose state.flags start, rest)
  let inside := text.drop 2
  if let some rest := after? "P<" inside then named state whole text rest
  else if let some rest := after? "P=" inside then namedReference state whole rest
  else if let some rest := after? ":" inside then opening .plain rest
  else if let some rest := after? "=" inside then opening (.ahead false) rest
  else if let some rest := after? "!" inside then opening (.ahead true) rest
  else if let some rest := after? "<=" inside then opening (.behind false) rest
  else if let some rest := after? "<!" inside then opening (.behind true) rest
  else if let some rest := after? "#" inside then
    let behind := rest.dropWhile (· != 0x29)
    if behind.isEmpty then failAt whole text .unclosedComment else return (state, behind.drop 1)
  else if inside = [] ∨ inside = Text.ofString "P" ∨ inside = Text.ofString "<" then
    failAt whole [] .endOfExpression
  else if inside.head?.any fun c => c = 0x50 ∨ c = 0x3c then
    failAt whole (text.drop 1)
      (.unknownExtension ((text.drop 1).take 2 ++ token (inside.drop 1)))
  else if inside.head?.any fun c => c = 0x2d ∨ (flag? state.flags true (Char.ofNat c)).isSome then
    match ← flagRun whole [] state.flags inside with
    | (flags, true, rest) => return (state.openGroup .plain flags start, rest)
    | (flags, false, rest) =>
      if start = 0 then return ({ state with flags }, rest) else failAt whole text .lateFlags
  else
    failAt whole (text.drop 1) (.unknownExtension ((text.drop 1).take 1 ++ token inside))

/-! ## Repetitions -/

/-- The bounds of a counted repetition, read from its brace on. -/
private def bounds? (text : Text) : Option ((Nat × Option Nat) × Text) :=
  let inside := text.drop 1
  let low := inside.takeWhile isDigit
  let afterLow := inside.drop low.length
  let least := numeral 10 low
  if inside.head? = some 0x7d then
    none
  else
    match afterLow with
    | 0x7d :: rest => some ((least, some least), rest)
    | 0x2c :: more =>
      let high := more.takeWhile isDigit
      match more.drop high.length with
      | 0x7d :: rest =>
        some ((least, if high.isEmpty then none else some (numeral 10 high)), rest)
      | _ => none
    | _ => none

/-- Repeats the last piece; the operator goes from `text` up to `rest`. -/
private def repeatLast (state : State) (least : Nat) (most : Option Nat) (whole text rest : Text) :
    Result (State × Text) := do
  if most.any (· < least) then
    failAt whole (text.drop 1) .crossedBounds
  match state.level.pieces with
  | [] | (_, .place) :: _ => failAt whole text .nothingToRepeat
  | (_, .repetition) :: _ => failAt whole text .stackedRepeats
  | (last, .atom) :: before =>
    let isLazy := rest.head? == some 0x3f
    let level := { state.level with pieces := before }
    let repeated := Tree.repeated last least most !isLazy
    return (({ state with level }).push repeated .repetition, if isLazy then rest.drop 1 else rest)

/-! ## The expression -/

/-- A number behind a backslash: three octal digits are a character, fewer digits
a group. -/
private def numberEscape (state : State) (whole text digits : Text) : Result (State × Text) := do
  let two := (digits.take 2).takeWhile isDigit
  if (digits.take 3).length = 3 ∧ (digits.take 3).all isOctal then
    let (value, behind) ← octalEscape whole text
    return (state.push (literal state.flags value), behind)
  let index := numeral 10 two
  if index > state.groups then
    failAt whole digits (.unknownReference index)
  return (← state.reference index whole text, digits.drop two.length)

/-- An escape outside a class, read from its backslash on. -/
private def escape (state : State) (whole text : Text) : Result (State × Text) := do
  match text with
  | _ :: c :: rest =>
    let flags := state.flags
    match Char.ofNat c with
    | 'A' => return (state.push (.place .textStart) .place, rest)
    | 'Z' => return (state.push (.place .textEnd) .place, rest)
    | 'b' => return (state.push (.place (.wordEdge flags.ascii)) .place, rest)
    | 'B' => return (state.push (.place (.notWordEdge flags.ascii)) .place, rest)
    | _ =>
      match classOf? flags c, numbered? whole text, simpleEscape? c with
      | some item, _, _ => return (state.push (.chars ⟨[item], false⟩), rest)
      | _, some read, _ => do
        let (value, behind) ← read
        return (state.push (literal flags value), behind)
      | _, _, some value => return (state.push (literal flags value), rest)
      | _, _, _ =>
        if isDigit c then numberEscape state whole text (c :: rest)
        else if isAsciiLetter c then badEscape whole text
        else return (state.push (literal flags c), rest)
  | _ => failAt whole text (.badEscape (Text.ofString "(end of pattern)"))

private def isSpacing (c : CodePoint) : Bool :=
  c.isAsciiBlank

/-- Reads one piece of the expression `whole`. -/
private def piece (whole : Text) (state : State) (text : Text) : Result (State × Text) :=
  let flags := state.flags
  match text with
  | [] => .ok (state, [])
  | c :: rest =>
    if flags.spaced && isSpacing c then
      .ok (state, rest)
    else if flags.spaced && c == 0x23 then
      .ok (state, (rest.dropWhile (· != 0x0a)).drop 1)
    else
      match Char.ofNat c with
      | '(' =>
        if rest.head? = some 0x3f then extended state whole text
        else .ok (state.openCapture (positionOf whole text), rest)
      | ')' => do return (← state.closeGroup whole text, rest)
      | '|' => .ok ({ state with level := state.level.bar }, rest)
      | '^' =>
        let place : Place := if flags.multiLine then .lineStart else .textStart
        .ok (state.push (.place place) .place, rest)
      | '$' =>
        let place : Place := if flags.multiLine then .lineEnd else .lastLineEnd
        .ok (state.push (.place place) .place, rest)
      | '.' => .ok (state.push (.chars (if flags.dotAll then .any else .notLineFeed)), rest)
      | '[' => do
        let (tree, behind) ← bracketed flags whole text
        return (state.push tree, behind)
      | '*' => repeatLast state 0 none whole text rest
      | '+' => repeatLast state 1 none whole text rest
      | '?' => repeatLast state 0 (some 1) whole text rest
      | '\\' => escape state whole text
      | _ =>
        match if c = 0x7b then bounds? text else none with
        | some ((least, most), behind) => repeatLast state least most whole text behind
        | none => .ok (state.push (literal flags c), rest)

/-- Reads pieces to the end; a piece takes at least one character, so as many
steps as there are characters are enough. -/
private def pieces (whole : Text) : Nat → State → Text → Result State
  | 0, state, _ => .ok state
  | steps + 1, state, text =>
    if text.isEmpty then
      .ok state
    else do
      let (next, rest) ← piece whole state text
      pieces whole steps next rest

end Reading

/-- Reads an expression of the backtracking dialect. -/
def parse (flags : Flags) (text : Text) : Except SyntaxError Tree := do
  let state ← Reading.pieces text text.length { flags := flags } text
  match state.opened with
  | [] => if state.openWidth then .error ⟨.openWidth, text, none⟩ else return state.level.close
  | inner :: _ => .error ⟨.unclosedGroup, text, some inner.start⟩

end Backtracking

end TokenLexer
