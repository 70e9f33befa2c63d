import TokenLexer.Text

/-!
# Sorting by comparisons that may fail

A merge sort that makes use of the order that its input has already. The input is cut into runs
that rise or fall; short runs are lengthened by insertion, and neighbouring runs are merged in
an order that goes by where they meet. A merge takes the values one by one, until one side wins
often in a row; then it looks ahead for how far this side would go on winning.

A comparison may fail, and then so does the sorting. Which two values are found not to be
comparable depends on which of them are compared first, and so on every detail of the procedure.
-/

namespace TokenLexer

namespace Sorting

variable {α ε : Type}

/-! ## Searching -/

/-- The end of a list from which it is looked at. -/
inductive End
  | front
  | back
  deriving DecidableEq, Repr

/-- The place halfway between `low` and `high`; of two places the one that comes first from the
front. -/
def End.middle (side : End) (low high : Nat) : Nat :=
  match side with
  | .front => (low + high) / 2
  | .back => high - 1 - (high - low) / 2

/-- Halves the places from `low` up to `high` until one is left, that of the first value that does
not pass. -/
def halve (side : End) (passes : α → Except ε Bool) (values : List α) :
    Nat → Nat → Nat → Except ε Nat
  | 0, low, _ => .ok low
  | steps + 1, low, high => do
    if low ≥ high then
      return low
    let middle := side.middle low high
    let some value := values[middle]? | return low
    if ← passes value then halve side passes values steps (middle + 1) high
    else halve side passes values steps low middle

/-- Looks at `next`, and then about twice as far each time, as long as the values there pass. The
place that is looked for lies behind the first result, and not behind the second. -/
def reach (passes : α → Except ε Bool) (values : List α) :
    Nat → Nat → Nat → Except ε (Nat × Nat)
  | 0, last, _ => .ok (last, values.length)
  | steps + 1, last, next => do
    let some value := values[next]? | return (last, values.length)
    if ← passes value then reach passes values steps next (2 * next + 1) else return (last, next)

/-- How many values pass, if those that do stand in front. -/
def gallop (side : End) (passes : α → Except ε Bool) (values : List α) : Except ε Nat := do
  let some first := values.head? | return 0
  if ← passes first then
    let (last, next) ← reach passes values values.length 0 1
    halve side passes values values.length (last + 1) next
  else
    return 0

section

variable (less : α → α → Except ε Bool)

/-! ## Runs -/

/-- Continues a run of falling values; `run` is in order. -/
def falling : List α → List α → Except ε (List α × List α)
  | run, [] => .ok (run, [])
  | run, value :: rest => do
    let some head := run.head? | return (run, value :: rest)
    if ← less value head then falling (value :: run) rest else return (run, value :: rest)

/-- Continues a run of values that do not fall; `run` is in reverse. -/
def rising : List α → List α → Except ε (List α × List α)
  | run, [] => .ok (run.reverse, [])
  | run, value :: rest => do
    let some head := run.head? | return (run.reverse, value :: rest)
    if ← less value head then return (run.reverse, value :: rest) else rising (value :: run) rest

/-- Inserts values one by one, each behind those that it does not come before. -/
def insertAll : List α → List α → Except ε (List α)
  | sorted, [] => .ok sorted
  | sorted, value :: rest => do
    let behind (other : α) : Except ε Bool := do return !(← less value other)
    let position ← halve .front behind sorted sorted.length 0 sorted.length
    insertAll (sorted.insertIdx position value) rest

/-- Lengthens a run to `least` values, if there are as many. -/
def lengthen (least : Nat) (run others : List α) : Except ε (List α × List α) := do
  let missing := least - run.length
  return (← insertAll less run (others.take missing), others.drop missing)

/-- The run that the values begin with, and those behind it. -/
def nextRun (least : Nat) : List α → Except ε (List α × List α)
  | first :: second :: rest => do
    let (run, others) ←
      if ← less second first then falling less [second, first] rest
      else rising less [second, first] rest
    lengthen less least run others
  | short => .ok (short, [])

/-- The least length of a run: from 32 to 64, so that there are about as many runs as a power
of two. -/
def leastRun (total : Nat) : Nat :=
  let scale := Nat.pow 2 (total.log2 - 5)
  (total + scale - 1) / scale

/-! ## Merging two runs -/

/-- Two runs that are being merged, seen from the side from which the merge goes over them. Those
of `kept` were moved out of the way for the others; `done` is what has been taken, the last value
first. -/
structure Merging (α : Type) where
  done : List α
  kept : List α
  other : List α

namespace Merging

/-- Nothing is left to compare: one value that was moved comes last in any case. -/
def isOver (merging : Merging α) : Bool :=
  merging.kept.length ≤ 1 || merging.other.isEmpty

/-- All values, in order when the merge is over. -/
def values (merging : Merging α) : List α :=
  merging.done.reverse ++ merging.other ++ merging.kept

def takeKept (count : Nat) (merging : Merging α) : Merging α :=
  { merging with
    done := (merging.kept.take count).reverse ++ merging.done
    kept := merging.kept.drop count }

def takeOther (count : Nat) (merging : Merging α) : Merging α :=
  { merging with
    done := (merging.other.take count).reverse ++ merging.done
    other := merging.other.drop count }

end Merging

/-- Whether the value of the other run is taken before the one that was kept. -/
def ahead (side : End) (other kept : α) : Except ε Bool :=
  match side with
  | .front => less other kept
  | .back => less kept other

/-- Takes the values one by one, until one side has won `patience` times in a row. -/
def oneByOne (side : End) (patience : Nat) :
    Nat → Nat → Nat → Merging α → Except ε (Merging α)
  | 0, _, _, merging => .ok merging
  | steps + 1, keptWins, otherWins, merging => do
    let some kept := merging.kept.head? | return merging
    let some other := merging.other.head? | return merging
    if ← ahead less side other kept then
      let later := merging.takeOther 1
      if later.isOver || patience ≤ otherWins + 1 then return later
      oneByOne side patience steps 0 (otherWins + 1) later
    else
      let later := merging.takeKept 1
      if later.isOver || patience ≤ keptWins + 1 then return later
      oneByOne side patience steps (keptWins + 1) 0 later

/-- Takes the kept values up to the next one of the others, and this one. -/
def keptHalf (side : End) (merging : Merging α) : Except ε (Nat × Merging α) := do
  let some other := merging.other.head? | return (0, merging)
  let behind (kept : α) : Except ε Bool := do return !(← ahead less side other kept)
  let count ← gallop side behind merging.kept
  let later := merging.takeKept count
  return (count, if later.isOver then later else later.takeOther 1)

/-- Takes the other values up to the next one that was kept, and this one. -/
def otherHalf (side : End) (merging : Merging α) : Except ε (Nat × Merging α) := do
  let some kept := merging.kept.head? | return (0, merging)
  let count ← gallop side (fun other => ahead less side other kept) merging.other
  let later := merging.takeOther count
  return (count, if later.isOver then later else later.takeKept 1)

/-- Both halves, the values of the first run coming first. -/
def firstHalf (side : End) (merging : Merging α) : Except ε (Nat × Merging α) :=
  match side with
  | .front => keptHalf less side merging
  | .back => otherHalf less side merging

def secondHalf (side : End) (merging : Merging α) : Except ε (Nat × Merging α) :=
  match side with
  | .front => otherHalf less side merging
  | .back => keptHalf less side merging

/-- How often one side has to win in a row for a merge to look ahead, at first, and how far it has
to see then to go on with it. -/
def leastGallop : Nat := 7

/-- Looks ahead on both sides in turn, as long as it is worth it. The longer it is, the sooner it
is tried again. -/
def galloping (side : End) : Nat → Nat → Merging α → Except ε (Merging α × Nat)
  | 0, patience, merging => .ok (merging, patience)
  | steps + 1, patience, merging => do
    let shorter := max 1 (patience - 1)
    let (count, middle) ← firstHalf less side merging
    if middle.isOver then return (middle, shorter)
    let (more, later) ← secondHalf less side middle
    if later.isOver then return (later, shorter)
    if leastGallop ≤ count || leastGallop ≤ more then galloping side steps shorter later
    else return (later, shorter)

/-- Takes values in both ways by turns. -/
def mergeOn (side : End) : Nat → Nat → Merging α → Except ε (Merging α × Nat)
  | 0, patience, merging => .ok (merging, patience)
  | steps + 1, patience, merging => do
    if merging.isOver then return (merging, patience)
    let middle ← oneByOne less side patience merging.values.length 0 0 merging
    if middle.isOver then return (middle, patience)
    let (later, shorter) ← galloping less side middle.values.length (patience + 1) middle
    mergeOn side steps (if later.isOver then shorter else shorter + 1) later

/-- Merges two runs from one side. The first value to be taken is one of the others. -/
def mergeFrom (side : End) (patience : Nat) (kept other : List α) :
    Except ε (List α × Nat) := do
  let start := (Merging.mk [] kept other).takeOther 1
  let (merging, patience) ← mergeOn less side start.values.length patience start
  return (merging.values, patience)

/-- Merges two runs from the side of the shorter one, which moves out of the way. -/
def mergeShorter (patience : Nat) (left right : List α) : Except ε (List α × Nat) := do
  if left.length ≤ right.length then
    mergeFrom less .front patience left right
  else
    let (values, patience) ← mergeFrom less .back patience right.reverse left.reverse
    return (values.reverse, patience)

/-- Merges two runs that stand one behind the other. What is in place already stays there. -/
def mergeRuns (patience : Nat) (first second : List α) : Except ε (List α × Nat) := do
  let some next := second.head? | return (first, patience)
  let inPlace (value : α) : Except ε Bool := do return !(← less next value)
  let start ← gallop .front inPlace first
  let some last := first.getLast? | return (second, patience)
  if first.length ≤ start then
    return (first ++ second, patience)
  let inPlace (value : α) : Except ε Bool := do return !(← less value last)
  let stop := second.length - (← gallop .back inPlace second.reverse)
  let (merged, patience) ← mergeShorter less patience (first.drop start) (second.take stop)
  return (first.take start ++ merged ++ second.drop stop, patience)

/-! ## Merging all runs -/

/-- A run that waits to be merged: where it starts, and the power of the place where it meets the
run in front of it. -/
structure Run (α : Type) where
  values : List α
  start : Nat
  power : Nat

/-- The power of the place where two neighbouring runs meet: the first binary place in which their
midpoints differ, as parts of the whole. -/
def powerOf (total start first second : Nat) : Nat :=
  let a := 2 * start + first
  let b := a + first + second
  let differ (place : Nat) : Bool :=
    Nat.pow 2 place * a / (2 * total) != Nat.pow 2 place * b / (2 * total)
  (((List.range total).map (· + 1)).find? differ).getD 0

/-- Merges the last two runs as long as they meet with a greater power. -/
def settle (power patience : Nat) : List (Run α) → Except ε (List (Run α) × Nat)
  | last :: before :: rest =>
    if power < last.power then do
      let (values, patience) ← mergeRuns less patience before.values last.values
      settle power patience ({ before with values } :: rest)
    else
      .ok (last :: before :: rest, patience)
  | runs => .ok (runs, patience)
termination_by runs => runs.length

/-- Merges all runs, two neighbours at a time. -/
def collapse (patience : Nat) : List (Run α) → Except ε (List α)
  | last :: before :: first :: rest =>
    if first.values.length < last.values.length then do
      let (values, patience) ← mergeRuns less patience first.values before.values
      collapse patience (last :: { first with values } :: rest)
    else do
      let (values, patience) ← mergeRuns less patience before.values last.values
      collapse patience ({ before with values } :: first :: rest)
  | [last, before] => do return (← mergeRuns less patience before.values last.values).1
  | [run] => .ok run.values
  | [] => .ok []
termination_by runs => runs.length

/-- Adds a run behind the others, and merges some of these if need be. -/
def addRun (total patience : Nat) (runs : List (Run α)) (values : List α) :
    Except ε (List (Run α) × Nat) := do
  let some last := runs.head? | return ([⟨values, 0, 0⟩], patience)
  let power := powerOf total last.start last.values.length values.length
  let (runs, patience) ← settle less power patience runs
  return (⟨values, last.start + last.values.length, power⟩ :: runs, patience)

/-- Finds the runs one after another. -/
def addRuns (total : Nat) :
    Nat → Nat → List (Run α) → List α → Except ε (List (Run α) × Nat)
  | 0, patience, runs, _ => .ok (runs, patience)
  | _, patience, runs, [] => .ok (runs, patience)
  | steps + 1, patience, runs, value :: rest => do
    let (run, others) ← nextRun less (leastRun total) (value :: rest)
    let (runs, patience) ← addRun less total patience runs run
    addRuns total steps patience runs others

/-- The values in order, equal ones as they came. -/
def sort (values : List α) : Except ε (List α) := do
  let (runs, patience) ← addRuns less values.length values.length leastGallop [] values
  collapse less patience runs

end

end Sorting

end TokenLexer
