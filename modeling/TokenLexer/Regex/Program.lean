import TokenLexer.Regex.Tree

/-!
# Programs of a regular expression

An expression is laid out as a list of instructions that fall through to the one
behind them. The code of a part begins where the code before it ends, so an
address is a position in the whole program. The first target of a `split` is the
preferred one: the order of the targets is where greedy and lazy differ.
-/

namespace TokenLexer

namespace Regex

/-- One instruction. Those without a target go on to the next address. -/
inductive Instruction
  | consume (set : CharClass)
  | require (condition : Anchor)
  | openGroup
  | closeGroup
  | jump (target : Nat)
  | split (preferred other : Nat)
  | accept
  deriving DecidableEq, Repr

/-- Instructions that depend on the address where they begin. -/
abbrev Code := Nat → List Instruction

namespace Code

/-- One code after another. -/
def append (first second : Code) : Code := fun start =>
  let head := first start
  head ++ second (start + head.length)

/-- The code `count` times in a row. -/
def copies (body : Code) : Nat → Code
  | 0 => fun _ => []
  | count + 1 => append body (copies body count)

/-- The choice to go on at `inside` or at `outside`; a greedy one goes inside first. -/
def choice (greedy : Bool) (inside outside : Nat) : Instruction :=
  if greedy then .split inside outside else .split outside inside

/-- The code at most `count` times, each time only after the one before it. -/
def optionals (body : Code) (greedy : Bool) : Nat → Code
  | 0 => fun _ => []
  | count + 1 => fun start =>
    let inside := append body (optionals body greedy count) (start + 1)
    choice greedy (start + 1) (start + 1 + inside.length) :: inside

/-- The code once or more. -/
def atLeastOnce (body : Code) (greedy : Bool) : Code := fun start =>
  let inside := body start
  inside ++ [choice greedy start (start + inside.length + 1)]

/-- The code any number of times: at least once, or not at all. -/
def anyTimes (body : Code) (greedy : Bool) : Code := fun start =>
  let inside := atLeastOnce body greedy (start + 1)
  choice greedy (start + 1) (start + 1 + inside.length) :: inside

/-- The code as often as the bounds allow. -/
def repeated (body : Code) (least : Nat) (most : Option Nat) (greedy : Bool) : Code :=
  match most, least with
  | none, 0 => anyTimes body greedy
  | none, least + 1 => append (copies body least) (atLeastOnce body greedy)
  | some most, least => append (copies body least) (optionals body greedy (most - least))

/-- The first code, or else the second. -/
def either (first second : Code) : Code := fun start =>
  let head := first (start + 1)
  let middle := start + 1 + head.length + 1
  let tail := second middle
  .split (start + 1) middle :: head ++ .jump (middle + tail.length) :: tail

end Code

/-- The code of an expression. Only group 1 leaves a trace. -/
def code : Regex → Code
  | .empty => fun _ => []
  | .chars set => fun _ => [.consume set]
  | .anchor condition => fun _ => [.require condition]
  | .seq first second => Code.append (code first) (code second)
  | .either first second => Code.either (code first) (code second)
  | .repeated body least most greedy => Code.repeated (code body) least most greedy
  | .group index body =>
    if index = 1 then
      Code.append (fun _ => [.openGroup]) (Code.append (code body) fun _ => [.closeGroup])
    else
      code body

/-- The whole program: the code from address 0 on, and then acceptance. -/
def program (r : Regex) : Array Instruction :=
  (code r 0 ++ [Instruction.accept]).toArray

end Regex

end TokenLexer
