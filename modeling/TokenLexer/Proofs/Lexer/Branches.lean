import TokenLexer.Lexer.Building

/-!
# Branches and matching

A lexer answers what its branches answer when they are tried from left to right:
the first one that returns a value other than `none`, or that fails, decides, and
the ones behind it are not asked. So the order of the branches is all that a
choice keeps of its nesting, and branches that never match may be left out.

Main statement: `answer_decided_by_branches`.
-/

namespace TokenLexer

theorem Value.token?_getD {token : Option Value}
    (present : ∀ value, token = some value → value ≠ .none) :
    (token.getD .none).token? = token := by
  cases token with
  | none => rfl
  | some value =>
    have other := present value rfl
    cases value with
    | none => exact absurd rfl other
    | _ => rfl

theorem Value.ne_none_of_token? {value token : Value} (found : value.token? = some token) :
    token ≠ .none := by
  cases value <;> simp_all [Value.token?] <;> subst found <;> simp

/-- The value, or what comes next where it is `none`. -/
def Value.orNext (next : Match Value) : Value → Match Value
  | .none => next
  | value => return value

@[simp] theorem Value.orNext_none (next : Match Value) : Value.orNext next .none = next := rfl

theorem Value.orNext_of_ne_none {value : Value} (other : value ≠ .none) (next : Match Value) :
    Value.orNext next value = pure value := by
  cases value with
  | none => exact absurd rfl other
  | _ => rfl

theorem Value.orNext_pure_none : Value.orNext (pure .none) = pure := by
  funext value
  cases value <;> rfl

theorem Value.orNext_bind (next last : Match Value) (value : Value) :
    Value.orNext next value >>= Value.orNext last =
      Value.orNext (next >>= Value.orNext last) value := by
  cases value <;> simp only [Value.orNext, pure_bind]

namespace Lexer

variable {outside : Outside}

/-- The first value other than `none` that the lexers return, from left to right, or
the first failure. The lexers behind it are not asked. -/
def firstAnswer (outside : Outside) : List (Lexer Value) → Value → Match Value
  | [], _ => return .none
  | first :: rest, input =>
    first.answer outside input >>= Value.orNext (firstAnswer outside rest input)

/-- Whether the lexer is the one that never matches. -/
def isEmpty : Lexer Value → Bool
  | .empty => true
  | _ => false

/-- The branches that can match at all. -/
def properBranches (lexer : Lexer Value) : List (Lexer Value) :=
  lexer.branches.filter fun branch => !branch.isEmpty

/-! ## Tokens are never `none` -/

theorem token_ne_none_of_leaf {leaf : Pattern Value} {text : Text} {token : Value}
    (found : leaf.token? text = .ok (some token)) : token ≠ .none := by
  unfold Pattern.token? at found
  split at found
  · exact Value.ne_none_of_token? (Except.ok.inj found)
  · cases found
  · cases found
  · cases found

theorem token_ne_none {lexer : Lexer Value} {input token : Value} {past : List Event}
    (found : (lexer.run outside input past).result = .ok (some token)) : token ≠ .none := by
  -- The parts of a lexer run after other events, so these are generalized with the token.
  induction lexer generalizing input token past with
  | empty => cases input <;> simp [run, onText, Ongoing.ofExcept, Ongoing.fail] at found
  | bare serial =>
    unfold run at found
    simp only [Ongoing.bind_result_ok] at found
    obtain ⟨_, _, _, _, value, _, returned⟩ := found
    exact Value.ne_none_of_token? (Except.ok.inj returned)
  | pattern leaf =>
    cases input with
    | text text => exact token_ne_none_of_leaf found
    | _ => cases found
  | mapped inner mapper ih =>
    unfold run at found
    simp only [Ongoing.bind_result_ok] at found
    obtain ⟨passed, _, mapped⟩ := found
    cases passed with
    | none => cases mapped
    | some passed =>
      obtain ⟨value, _, returned⟩ := Ongoing.bind_result_ok.mp mapped
      exact Value.ne_none_of_token? (Except.ok.inj returned)
  | orElse first second ihFirst ihSecond =>
    unfold run at found
    simp only [Ongoing.bind_result_ok] at found
    obtain ⟨passed, answered, others⟩ := found
    cases passed with
    | none => exact ihSecond others
    | some passed =>
      cases others
      exact ihFirst answered
  | recording probe inner ih =>
    unfold run at found
    simp only [Ongoing.bind_result_ok] at found
    obtain ⟨_, _, others⟩ := found
    exact ih others
  | constant value => exact Value.ne_none_of_token? (Except.ok.inj found)
  | stray value => cases found

/-- The token is told by the value that is returned. -/
theorem run_eq_answer (lexer : Lexer Value) (input : Value) :
    lexer.run outside input = (do return (← lexer.answer outside input).token?) := by
  simp only [answer, bind_assoc, pure_bind]
  calc
    lexer.run outside input = lexer.run outside input >>= pure := (bind_pure _).symm
    _ = (do return ((← lexer.run outside input).getD .none).token?) := by
      -- Only tokens that the lexer can return matter, and `none` is not among them.
      refine Ongoing.bind_congr_result fun past token found => ?_
      have present : ∀ value, token = some value → value ≠ .none := by
        rintro value rfl
        exact token_ne_none found
      rw [Value.token?_getD present]

/-! ## Trying branches in turn -/

theorem answer_orElse (first second : Lexer Value) (input : Value) :
    (orElse first second).answer outside input =
      first.answer outside input >>= Value.orNext (second.answer outside input) := by
  simp only [answer, run, bind_assoc, pure_bind]
  -- The choice looks at the token, `orNext` at the value; they agree on what was returned.
  refine Ongoing.bind_congr_result fun past token found => ?_
  cases token with
  | none => rfl
  | some value => simp [Value.orNext_of_ne_none (token_ne_none found)]

theorem firstAnswer_singleton (lexer : Lexer Value) (input : Value) :
    firstAnswer outside [lexer] input = lexer.answer outside input := by
  simp only [firstAnswer, Value.orNext_pure_none, bind_pure]

theorem firstAnswer_append (first second : List (Lexer Value)) (input : Value) :
    firstAnswer outside (first ++ second) input =
      firstAnswer outside first input >>= Value.orNext (firstAnswer outside second input) := by
  induction first with
  | nil => simp only [List.nil_append, firstAnswer, pure_bind, Value.orNext_none]
  | cons head tail ih =>
    simp only [List.cons_append, firstAnswer, bind_assoc, ih, Value.orNext_bind]

theorem answer_eq_firstAnswer (lexer : Lexer Value) (input : Value) :
    lexer.answer outside input = firstAnswer outside lexer.branches input := by
  induction lexer with
  | orElse first second ihFirst ihSecond =>
    rw [answer_orElse, branches_orElse, firstAnswer_append, ihFirst, ihSecond]
  | _ => exact (firstAnswer_singleton _ _).symm

theorem eq_empty_of_isEmpty {lexer : Lexer Value} (empty : lexer.isEmpty = true) :
    lexer = .empty := by
  cases lexer with
  | empty => rfl
  | _ => cases empty

theorem answer_empty_text (text : Text) :
    (empty : Lexer Value).answer outside (.text text) = pure .none := rfl

/-- Branches that never match do not matter, as long as the input is a text. -/
theorem firstAnswer_filter_isEmpty (lexers : List (Lexer Value)) (text : Text) :
    firstAnswer outside (lexers.filter fun lexer => !lexer.isEmpty) (.text text) =
      firstAnswer outside lexers (.text text) := by
  induction lexers with
  | nil => rfl
  | cons head tail ih =>
    cases proper : head.isEmpty with
    | true =>
      obtain rfl := eq_empty_of_isEmpty proper
      rw [List.filter_cons_of_neg (by simp [proper]), ih, firstAnswer, answer_empty_text, pure_bind,
        Value.orNext_none]
    | false =>
      rw [List.filter_cons_of_pos (by simp [proper]), firstAnswer, firstAnswer, ih]

theorem answer_eq_of_properBranches {lexer other : Lexer Value}
    (same : lexer.properBranches = other.properBranches) (text : Text) :
    lexer.answer outside (.text text) = other.answer outside (.text text) := by
  rw [answer_eq_firstAnswer, answer_eq_firstAnswer, ← firstAnswer_filter_isEmpty lexer.branches,
    ← firstAnswer_filter_isEmpty other.branches]
  exact congrArg (firstAnswer outside · (.text text)) same

/-! ## The order of the branches decides -/

/-- A lexer answers as its branches do when they are tried in order, events included.
So two lexers with the same branches, apart from those that never match, cannot be
told apart by texts; falling back is associative, and the lexer that never matches
is a unit on both sides. -/
theorem answer_decided_by_branches (outside : Outside) :
    (∀ (lexer : Lexer Value) (input : Value),
      lexer.answer outside input = firstAnswer outside lexer.branches input) ∧
    (∀ lexer other : Lexer Value, lexer.properBranches = other.properBranches →
      ∀ text, lexer.answer outside (.text text) = other.answer outside (.text text)) ∧
    (∀ a b c : Lexer Value, ∃ left right,
      (do (← a.or (.lexer b)).or (.lexer c)) = .ok left ∧
      (do a.or (.lexer (← b.or (.lexer c)))) = .ok right ∧
      ∀ input, left.answer outside input = right.answer outside input) ∧
    (∀ lexer : Lexer Value, ∃ left right,
      or .empty (.lexer lexer) = .ok left ∧ lexer.or (.lexer .empty) = .ok right ∧
      ∀ text, left.answer outside (.text text) = lexer.answer outside (.text text) ∧
        right.answer outside (.text text) = lexer.answer outside (.text text)) := by
  refine ⟨answer_eq_firstAnswer, fun _ _ => answer_eq_of_properBranches, fun a b c => ?_,
    fun lexer => ?_⟩
  · refine ⟨(a.orElse b).orElse c, a.orElse (b.orElse c), rfl, rfl, fun input => ?_⟩
    simp only [answer_eq_firstAnswer, branches_orElse, List.append_assoc]
  · refine ⟨orElse .empty lexer, lexer.orElse .empty, rfl, rfl, fun text => ?_⟩
    constructor
    · exact answer_eq_of_properBranches (by simp [properBranches, branches, isEmpty]) text
    · exact answer_eq_of_properBranches (by simp [properBranches, branches, isEmpty]) text

/-- The lexer that never matches, before and behind a recorder that finds the empty text, which
a condition would take for false. -/
def blankInTheMiddle : Lexer Value :=
  .orElse .empty (.orElse (.recording 0 (.constant (.text []))) .empty)

theorem answer_decided_by_falsy_branch :
    blankInTheMiddle.properBranches =
      (orElse (.recording 0 (.constant (.text []))) .empty).properBranches ∧
    blankInTheMiddle.answer .nothing (.text []) =
      (orElse (.recording 0 (.constant (.text []))) .empty).answer .nothing (.text []) ∧
    (blankInTheMiddle.answer .nothing (.text []) []).result = .ok (.text []) ∧
    (blankInTheMiddle.answer .nothing (.text []) []).trace = [.recorded 0 (.text [])] :=
  ⟨rfl, (answer_decided_by_branches .nothing).2.1 _ _ rfl _, rfl, rfl⟩

end Lexer

end TokenLexer
