import TokenLexer.Regex.Tree

/-!
# Parses

What the ways in which an expression matches a text have in common: where they begin
and end, what they can capture, and how often a repetition repeats.

Main statements: `Matches.within`, `Matches.captures`, and `matches_repeated_iff`.
-/

namespace TokenLexer

namespace Regex

/-! ## Trees -/

/-- The numbers of the groups, in the order of their opening brackets. -/
def groups : Regex → List Nat
  | .empty | .chars _ | .anchor _ => []
  | .seq first second | .either first second => groups first ++ groups second
  | .repeated body _ _ _ => groups body
  | .group index body => index :: groups body

/-- No repetition asks for more rounds than it allows. -/
def Bounded : Regex → Prop
  | .empty | .chars _ | .anchor _ => True
  | .seq first second | .either first second => Bounded first ∧ Bounded second
  | .repeated body least most _ => (∀ bound, most = some bound → least ≤ bound) ∧ Bounded body
  | .group _ body => Bounded body

theorem length_groups (r : Regex) : r.groups.length = r.groupCount := by
  induction r with
  | empty | chars | anchor => rfl
  | seq first second ihFirst ihSecond | either first second ihFirst ihSecond =>
    simp [groups, groupCount, ihFirst, ihSecond]
  | repeated body least most greedy ih => exact ih
  | group index body ih => simp [groups, groupCount, ih]

/-- A way to go from one position and capture to another. -/
abbrev Parse := Nat → Nat → Capture → Capture → Prop

/-- One parse after another, a number of times. -/
inductive Times (parse : Parse) : Nat → Parse
  | none {i cap} : Times parse 0 i i cap cap
  | more {count i j k cap mid new} (once : parse i j cap mid)
      (others : Times parse count j k mid new) : Times parse (count + 1) i k cap new

variable {text : Text} {r body : Regex} {parse : Parse} {i j k first second : Nat}
  {cap mid new : Capture}

/-! ## Where a parse lies and what it captures -/

namespace Matches

/-- A parse goes forward and stays within the text. -/
theorem within (parse : Matches text r i j cap new) :
    i ≤ j ∧ (i ≤ text.length → j ≤ text.length) := by
  induction parse with
  | empty | anchor | stop => exact ⟨Nat.le_refl _, id⟩
  | chars char _ =>
    have inside := (List.getElem?_eq_some_iff.mp char).1
    exact ⟨Nat.le_succ _, fun _ => inside⟩
  | seq _ _ ihHead ihTail | again _ _ _ ihHead ihTail =>
    exact ⟨Nat.le_trans ihHead.1 ihTail.1, fun within => ihTail.2 (ihHead.2 within)⟩
  | left _ ih | right _ ih | group _ ih => exact ih

/-- What a parse leaves captured is what was captured before it, or a stretch of its own. -/
theorem captures (parse : Matches text r i j cap new) :
    new = cap ∨ ∃ start stop, new = some (start, stop) ∧ i ≤ start ∧ start ≤ stop ∧ stop ≤ j := by
  induction parse with
  | empty | chars | anchor | stop => exact Or.inl rfl
  | left _ ih | right _ ih => exact ih
  | seq head tail ihHead ihTail | again _ head tail ihHead ihTail =>
    have forward := head.within.1
    have onward := tail.within.1
    rcases ihTail with rfl | ⟨start, stop, rfl, behind, ordered, before⟩
    · rcases ihHead with rfl | ⟨start, stop, rfl, behind, ordered, before⟩
      · exact Or.inl rfl
      · exact Or.inr ⟨start, stop, rfl, behind, ordered, Nat.le_trans before onward⟩
    · exact Or.inr ⟨start, stop, rfl, Nat.le_trans forward behind, ordered, before⟩
  | @group index _ i j _ _ inside ih =>
    by_cases one : index = 1
    · rw [if_pos one]
      exact Or.inr ⟨i, j, rfl, Nat.le_refl _, inside.within.1, Nat.le_refl _⟩
    · rw [if_neg one]
      exact ih

end Matches

/-! ## Repetitions -/

theorem Times.append (head : Times parse first i j cap mid)
    (tail : Times parse second j k mid new) : Times parse (first + second) i k cap new := by
  induction head with
  | none => rwa [Nat.zero_add]
  | more once _ ih =>
    rw [Nat.add_right_comm]
    exact .more once (ih tail)

theorem Times.split (whole : Times parse (first + second) i k cap new) :
    ∃ j mid, Times parse first i j cap mid ∧ Times parse second j k mid new := by
  induction first generalizing i cap with
  | zero => exact ⟨i, cap, .none, by rwa [Nat.zero_add] at whole⟩
  | succ first ih =>
    rw [Nat.add_right_comm] at whole
    cases whole with
    | more once others =>
      obtain ⟨j, mid, head, tail⟩ := ih others
      exact ⟨j, mid, .more once head, tail⟩

/-- A repetition is a number of rounds within its bounds. -/
theorem matches_repeated_iff {least : Nat} {most : Option Nat} {greedy : Bool} :
    Matches text (.repeated body least most greedy) i j cap new ↔
      ∃ count, least ≤ count ∧ (∀ bound, most = some bound → count ≤ bound) ∧
        Times (Matches text body) count i j cap new := by
  constructor
  · intro whole
    generalize same : Regex.repeated body least most greedy = r at whole
    induction whole generalizing least most with
    | stop =>
      cases same
      exact ⟨0, Nat.le_refl _, fun _ _ => Nat.zero_le _, .none⟩
    | again room once others _ ih =>
      cases same
      obtain ⟨count, enough, few, rounds⟩ := ih rfl
      refine ⟨count + 1, by omega, ?_, .more once rounds⟩
      rintro bound rfl
      have fewer := few (bound - 1) rfl
      have positive : bound ≠ 0 := fun none => room (congrArg some none)
      omega
    | _ => cases same
  · rintro ⟨count, enough, few, rounds⟩
    induction count generalizing least most i cap with
    | zero =>
      obtain rfl := Nat.le_zero.mp enough
      cases rounds
      exact .stop
    | succ count ih =>
      cases rounds with
      | more once others =>
        refine .again ?_ once (ih (by omega) ?_ others)
        · rintro rfl
          exact absurd (few 0 rfl) (by omega)
        · intro bound less
          obtain ⟨whole, rfl, rfl⟩ := Option.map_eq_some_iff.mp less
          have fewer := few whole rfl
          omega

end Regex

end TokenLexer
