import TokenLexer.Text.Orbit

/-!
# Character classes

A class is a union of groups of characters, each group or the whole union
possibly negated.
-/

namespace TokenLexer

/-- Some ranges, or everything outside them. -/
structure ClassItem where
  ranges : CodeRanges
  negated : Bool := false
  deriving DecidableEq, Repr

namespace ClassItem

def contains (item : ClassItem) (c : CodePoint) : Bool :=
  item.ranges.contains c != item.negated

/-- The same group without regard to case. -/
def ignoringCase (item : ClassItem) : ClassItem :=
  { item with ranges := Orbit.closure item.ranges }

end ClassItem

/-- The characters of some item, or those of none. -/
structure CharClass where
  items : List ClassItem
  negated : Bool := false
  deriving DecidableEq, Repr

namespace CharClass

def contains (set : CharClass) (c : CodePoint) : Bool :=
  set.items.any (·.contains c) != set.negated

/-- The class of one character. -/
def single (c : CodePoint) : CharClass :=
  ⟨[⟨[(c, c)], false⟩], false⟩

/-- The characters that equal `c` up to case. -/
def orbit (c : CodePoint) : CharClass :=
  ⟨[⟨(Orbit.ofCodePoint c).map fun d => (d, d), false⟩], false⟩

/-- Every character. -/
def any : CharClass :=
  ⟨[], true⟩

/-- Every character but the line feed. -/
def notLineFeed : CharClass :=
  ⟨[⟨[(0x0a, 0x0a)], false⟩], true⟩

end CharClass

end TokenLexer
