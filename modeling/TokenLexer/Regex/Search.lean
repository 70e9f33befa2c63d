import TokenLexer.Regex.Program

/-!
# Searching for a match of the whole text

A depth-first search over pairs of an address and a position. A pair is looked
at once: what a second look could find, the first has found or will find. So the
search is linear in the product of program and text, and its answer is the first
match in order of preference.
-/

namespace TokenLexer

namespace Regex

/-- A place in the search: an address, a position, and the text on both sides of it. -/
structure Thread where
  address : Nat
  position : Nat
  before : Option CodePoint
  rest : Text
  /-- Where group 1 was opened last. -/
  opened : Nat
  capture : Capture
  deriving DecidableEq, Repr

namespace Thread

def start (text : Text) : Thread :=
  ⟨0, 0, none, text, 0, none⟩

def goto (thread : Thread) (address : Nat) : Thread :=
  { thread with address }

/-- The threads that follow by one instruction, the preferred first. -/
def next (thread : Thread) : Instruction → List Thread
  | .consume set =>
    match thread.rest with
    | c :: rest =>
      if set.contains c then
        [{ thread with
          address := thread.address + 1
          position := thread.position + 1
          before := some c
          rest }]
      else
        []
    | [] => []
  | .require condition =>
    if condition.holds thread.before thread.rest.head? then [thread.goto (thread.address + 1)]
    else []
  | .openGroup => [{ thread with address := thread.address + 1, opened := thread.position }]
  | .closeGroup =>
    [{ thread with
      address := thread.address + 1
      capture := some (thread.opened, thread.position) }]
  | .jump target => [thread.goto target]
  | .split preferred other => [thread.goto preferred, thread.goto other]
  | .accept => []

end Thread

/-- The pairs looked at, one flag for each position and address. -/
abbrev Visited := Array Bool

namespace Visited

def none (size : Nat) : Visited :=
  Array.replicate size false

def has (visited : Visited) (index : Nat) : Bool :=
  visited.getD index true

def mark (visited : Visited) (index : Nat) : Visited :=
  visited.setIfInBounds index true

end Visited

/-- Takes threads from `stack` until one accepts at the end of the text. -/
def search (program : Array Instruction) : Nat → List Thread → Visited → Option Capture
  | 0, _, _ => none
  | _, [], _ => none
  | steps + 1, thread :: stack, visited =>
    let index := thread.position * program.size + thread.address
    if visited.has index then
      search program steps stack visited
    else
      match program[thread.address]? with
      | none => search program steps stack visited
      | some instruction =>
        if instruction = .accept ∧ thread.rest = [] then
          some thread.capture
        else
          search program steps (thread.next instruction ++ stack) (visited.mark index)

/-- The stretch of group 1 in the preferred match of the whole text, if the text
matches. Each pair puts two threads on the stack at most, so twice as many steps
as pairs are enough. -/
def captureIn (r : Regex) (text : Text) : Option Capture :=
  let program := r.program
  let pairs := program.size * (text.length + 1)
  search program (2 * pairs + 1) [.start text] (.none pairs)

end Regex

end TokenLexer
