import TokenLexer.Lexer.Matching

/-!
# Probes

What recording lexers and counters have seen over any number of matches. The
events of a match are added behind what was there, in the order in which they
happened. Main statements: observing nothing changes nothing, and observing two
traces one after the other is observing both at once.
-/

namespace TokenLexer

/-- How often a counter was called, and with which tokens. -/
structure Counter where
  count : Int := 0
  seen : List Value := []

/-- What the probes hold, by their numbers. -/
structure Probes where
  calls : Nat → List Value
  counters : Nat → Counter

namespace Event

/-- The inputs that the recording lexer `probe` was given. -/
def recordedBy (probe : Nat) : Event → Option Value
  | .recorded other input => if other = probe then some input else none
  | _ => none

/-- The tokens that the counter `probe` was given. -/
def countedBy (probe : Nat) : Event → Option Value
  | .counted other token => if other = probe then some token else none
  | _ => none

end Event

namespace Probes

/-- No probe has seen anything. -/
def fresh : Probes :=
  ⟨fun _ => [], fun _ => {}⟩

/-- Adds the events of a match. -/
def observe (probes : Probes) (events : List Event) : Probes where
  calls probe := probes.calls probe ++ events.filterMap (·.recordedBy probe)
  counters probe :=
    let tokens := events.filterMap (·.countedBy probe)
    let old := probes.counters probe
    { count := old.count + tokens.length, seen := old.seen ++ tokens }

/-- Sets what one counter holds. -/
def setCounter (probes : Probes) (probe : Nat) (counter : Counter) : Probes :=
  { probes with
    counters := fun other => if other = probe then counter else probes.counters other }

theorem observe_nil (probes : Probes) : probes.observe [] = probes := by
  cases probes
  simp [observe]

theorem observe_append (probes : Probes) (first second : List Event) :
    probes.observe (first ++ second) = (probes.observe first).observe second := by
  simp [observe, Int.add_assoc]

end Probes

end TokenLexer
