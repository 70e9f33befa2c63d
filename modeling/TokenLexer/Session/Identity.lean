import TokenLexer.Probe
import TokenLexer.Registry

/-!
# Identity

Two objects can be equal without being one. An object that a session makes gets a
number of its own; the parts that it was made from keep theirs. Some values are
always one: nothing, the truth values, small numbers, functions and compiled
patterns.
-/

namespace TokenLexer

namespace Session

/-- Which object a value is, and which its parts are. -/
inductive Identity
  | shared
  | unique (serial : Nat) (parts : List (String × Identity))
  deriving Inhabited

namespace Identity

/-- The identity of a part. -/
def part (identity : Identity) (field : String) : Identity :=
  match identity with
  | .shared => .shared
  | .unique _ parts => (parts.lookup field).getD .shared

/-- Whether a literal is always the same object: a number from -5 to 256, a text
of at most one character below 256. -/
def isShared : Value → Bool
  | .none | .bool _ | .mapper (.function _) | .pattern _ => true
  | .int i => -5 ≤ i && i ≤ 256
  | .text t => t.isEmpty || (t.length == 1 && t.all (· < 256))
  | .bytes b => b.length ≤ 1
  | .tuple items => items.isEmpty
  | _ => false

/-- The identity of a mapper inside a lexer; counters are known by their probe. -/
def ofMapper : Mapper Value → Identity
  | .counter probe _ => .unique probe []
  | _ => .shared

/-- Numbers the nodes of a lexer that was made just now, from `next` on. -/
def ofLexer : Nat → Lexer Value → Identity × Nat
  | next, .pattern _ => (.unique next [("pattern", .shared)], next + 1)
  | next, .mapped inner mapper =>
    let (inside, last) := ofLexer (next + 1) inner
    (.unique next [("lexer", inside), ("mapper", ofMapper mapper)], last)
  | next, .orElse first second =>
    let (left, middle) := ofLexer (next + 1) first
    let (right, last) := ofLexer middle second
    (.unique next [("first", left), ("second", right)], last)
  | next, _ => (.unique next [], next + 1)

/-- Whether two values with these identities are one object. -/
def same (a b : Identity) (x y : Value) : Bool :=
  match a, b with
  | .unique m _, .unique n _ => m == n
  | .shared, .shared => x.typeName == y.typeName && x.sameKey y
  | _, _ => false

end Identity

/-- A list that a probe goes on adding to. -/
inductive Growing
  | calls (probe : Nat)
  | seen (probe : Nat)

/-- A value in a register. That of a growing list is what it was when the list was
looked up last. -/
structure Held where
  value : Value
  identity : Identity
  growing : Option Growing := none
  deriving Inhabited

/-- What a list that is growing holds by now. -/
def Growing.value (probes : Probes) : Growing → Value
  | .calls probe => .list (probes.calls probe)
  | .seen probe => .list (probes.counters probe).seen

/-- The value as it is by now. -/
def Held.upToDate (held : Held) (probes : Probes) : Held :=
  match held.growing with
  | some list => { held with value := list.value probes }
  | none => held

end Session

end TokenLexer
