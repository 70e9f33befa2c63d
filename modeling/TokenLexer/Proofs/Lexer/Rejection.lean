import Mathlib.Data.List.Basic
import TokenLexer.Probe
import TokenLexer.Proofs.Lexer.Visits
import TokenLexer.Proofs.Registry.Chaining

/-!
# Inputs that are not texts

Only the leaves of a tree look at its input, and a match comes to the leftmost leaf before it
has found anything. An input that is not a text is rejected there. The error is no non-match,
so no choice and no transformation on the way goes on: neither a mapper nor a second lexer is
called, and no pattern is asked. The recording lexers on the way have the input by then.

Main statements: `Patterned.run_not_text`, `Patterned.visits_not_text` and
`not_text_rejected_first`.
-/

namespace TokenLexer

namespace Lexer

variable {outside : Outside} {lexer : Lexer Value} {input : Value} {past : List Event}
  {leaves : Pattern Value → Prop}

/-! ## Trees over patterns -/

/-- Every leaf of the tree never matches or is a pattern of the kind `leaves`. -/
inductive Patterned (leaves : Pattern Value → Prop) : Lexer Value → Prop
  | empty : Patterned leaves .empty
  | pattern {leaf : Pattern Value} (suits : leaves leaf) : Patterned leaves (.pattern leaf)
  | mapped {inner : Lexer Value} (mapper : Mapper Value) (inside : Patterned leaves inner) :
      Patterned leaves (.mapped inner mapper)
  | orElse {first second : Lexer Value} (front : Patterned leaves first)
      (back : Patterned leaves second) : Patterned leaves (.orElse first second)
  | recording {inner : Lexer Value} (probe : Nat) (inside : Patterned leaves inner) :
      Patterned leaves (.recording probe inner)

/-- The tree with other patterns at its leaves. -/
def mapPatterns (change : Pattern Value → Pattern Value) : Lexer Value → Lexer Value
  | .pattern leaf => .pattern (change leaf)
  | .mapped inner mapper => .mapped (mapPatterns change inner) mapper
  | .orElse first second => .orElse (mapPatterns change first) (mapPatterns change second)
  | .recording probe inner => .recording probe (mapPatterns change inner)
  | lexer => lexer

theorem Patterned.mapPatterns {others : Pattern Value → Prop}
    {change : Pattern Value → Pattern Value} (patterned : lexer.Patterned leaves)
    (suits : ∀ leaf, leaves leaf → others (change leaf)) :
    (lexer.mapPatterns change).Patterned others := by
  induction patterned with
  | empty => exact .empty
  | pattern leaf => exact .pattern (suits _ leaf)
  | mapped mapper _ ih => exact .mapped mapper ih
  | orElse _ _ front back => exact .orElse front back
  | recording probe _ ih => exact .recording probe ih

/-! ## The way to the leftmost leaf -/

/-- The lexers on the way from the root to the leftmost leaf, both included. -/
def leftmost : Lexer Value → List (Lexer Value)
  | .mapped inner mapper => .mapped inner mapper :: leftmost inner
  | .orElse first second => .orElse first second :: leftmost first
  | .recording probe inner => .recording probe inner :: leftmost inner
  | lexer => [lexer]

def probe? : Lexer Value → Option Nat
  | .recording probe _ => some probe
  | _ => none

/-- The recording lexers on the way, from the root on. -/
def leftmostRecorders (lexer : Lexer Value) : List Nat :=
  lexer.leftmost.filterMap probe?

theorem mem_leftmostRecorders {probe : Nat} : probe ∈ lexer.leftmostRecorders ↔
    ∃ inner, .recording probe inner ∈ lexer.leftmost := by
  rw [leftmostRecorders, List.mem_filterMap]
  constructor
  · rintro ⟨node, member, recorder⟩
    cases node with
    | recording other inner =>
      cases recorder
      exact ⟨inner, member⟩
    | _ => cases recorder
  · rintro ⟨inner, member⟩
    exact ⟨_, member, rfl⟩

theorem leftmostRecorders_mapPatterns (change : Pattern Value → Pattern Value)
    (lexer : Lexer Value) :
    (lexer.mapPatterns change).leftmostRecorders = lexer.leftmostRecorders := by
  induction lexer with
  | mapped inner mapper ih => exact ih
  | orElse first second ih _ => exact ih
  | recording probe inner ih => exact congrArg (probe :: ·) ih
  | _ => rfl

/-! ## Rejection -/

/-- The leftmost leaf rejects the input, and the error goes up to the root. -/
theorem Patterned.run_not_text (patterned : lexer.Patterned leaves)
    (other : ∀ text, input ≠ .text text) (outside : Outside) (past : List Event) :
    lexer.run outside input past =
      ⟨lexer.leftmostRecorders.map (.recorded · input), .error (.inputNotText input.typeName)⟩ := by
  -- Only a leaf looks at the input. Above it nothing comes back but an error, so neither the
  -- mapper nor the second lexer of a choice has its turn.
  induction patterned generalizing past with
  | empty => exact congrFun (onText_not_text other _) past
  | pattern => exact congrFun (onText_not_text other _) past
  | mapped mapper _ ih =>
    rw [run, Ongoing.bind_apply, ih, Traced.bind_error rfl]
    rfl
  | orElse _ _ front _ =>
    rw [run, Ongoing.bind_apply, front, Traced.bind_error rfl]
    rfl
  | recording probe _ ih =>
    rw [run, Ongoing.bind_apply, Traced.bind_ok rfl, ih]
    rfl

theorem Patterned.answer_not_text (patterned : lexer.Patterned leaves)
    (other : ∀ text, input ≠ .text text) (outside : Outside) (past : List Event) :
    lexer.answer outside input past =
      ⟨lexer.leftmostRecorders.map (.recorded · input), .error (.inputNotText input.typeName)⟩ := by
  rw [answer, Ongoing.bind_apply, patterned.run_not_text other, Traced.bind_error rfl]

/-- The lexers on the way to the leftmost leaf are called with the input, in order, and
nothing else is called. -/
theorem Patterned.visits_not_text (patterned : lexer.Patterned leaves)
    (other : ∀ text, input ≠ .text text) (outside : Outside) (past : List Event) :
    (lexer.visits outside input past).map (fun visit => (visit.callee, visit.argument)) =
      lexer.leftmost.map fun node => (.lexer node, input) := by
  induction patterned generalizing past with
  | empty => rfl
  | pattern => rfl
  | mapped mapper inside ih =>
    simp only [visits, inside.run_not_text other, List.append_nil, List.map_cons, List.map_map]
    exact congrArg _ (ih past)
  | orElse front _ ih _ =>
    simp only [visits, front.run_not_text other, List.append_nil, List.map_cons, List.map_map]
    exact congrArg _ (ih past)
  | recording probe _ ih =>
    simp only [visits, List.map_cons, List.map_map]
    exact congrArg _ (ih _)

theorem Patterned.place_not_text (patterned : lexer.Patterned leaves)
    (other : ∀ text, input ≠ .text text) (outside : Outside) (past : List Event) :
    ∀ visit ∈ lexer.visits outside input past,
      .mapper ∉ visit.place ∧ .second ∉ visit.place := by
  induction patterned generalizing past with
  | empty => simp [visits]
  | pattern => simp [visits]
  | mapped mapper inside ih =>
    simpa [visits, inside.run_not_text other, Visit.under] using ih past
  | orElse front _ ih _ =>
    simpa [visits, front.run_not_text other, Visit.under] using ih past
  | recording probe _ ih =>
    simpa [visits, Visit.under] using ih _

/-- What the pattern of a leaf would find is not asked for. -/
theorem Patterned.answer_mapPatterns (patterned : lexer.Patterned leaves)
    (other : ∀ text, input ≠ .text text) (change : Pattern Value → Pattern Value)
    (outside : Outside) (past : List Event) :
    (lexer.mapPatterns change).answer outside input past = lexer.answer outside input past := by
  have changed : (lexer.mapPatterns change).Patterned fun _ => True :=
    patterned.mapPatterns fun _ _ => trivial
  rw [changed.answer_not_text other, patterned.answer_not_text other,
    leftmostRecorders_mapPatterns]

end Lexer

/-! ## What the recording lexers have -/

namespace Event

variable (recorders : List Nat) (input : Value) (probe : Nat)

theorem filterMap_recordedBy_recorded :
    (recorders.map (Event.recorded · input)).filterMap (·.recordedBy probe) =
      List.replicate (recorders.count probe) input := by
  induction recorders with
  | nil => rfl
  | cons head tail ih =>
    rw [List.map_cons, List.filterMap_cons, ih]
    by_cases same : head = probe
    · simp [recordedBy, same, List.replicate_succ]
    · simp [recordedBy, same]

theorem filterMap_countedBy_recorded :
    (recorders.map (Event.recorded · input)).filterMap (·.countedBy probe) = [] := by
  simp [countedBy]

end Event

/-- The input is added once for each recording, and counters do not see it. -/
theorem Probes.observe_recorded (probes : Probes) (recorders : List Nat) (input : Value) :
    probes.observe (recorders.map (.recorded · input)) =
      { probes with
        calls := fun probe =>
          probes.calls probe ++ List.replicate (recorders.count probe) input } := by
  simp only [observe, Event.filterMap_recordedBy_recorded, Event.filterMap_countedBy_recorded,
    List.length_nil, Int.ofNat_zero, Int.add_zero, List.append_nil]

namespace Lexer

/-- Every tree over patterns rejects an input that is not a text with an error that names the
type of the input. The lexers on the way to the leftmost leaf are called, and neither a mapper
nor anything on the second side of a choice. No pattern is asked: with any others at the
leaves, also such that fail on every text, the same happens. A recording lexer gets the input
if it lies on this way, once for each of its places there, and no counter sees it. -/
theorem not_text_rejected_first {lexer : Lexer Value} (patterned : lexer.Patterned fun _ => True)
    {input : Value} (other : ∀ text, input ≠ .text text) (outside : Outside) (past : List Event)
    (probes : Probes) :
    (∃ error, (lexer.answer outside input past).result = .error error ∧ error.kind = .type ∧
      error.message =
        Text.ofString "input must be a string, got " ++ Text.ofString input.typeName) ∧
    (lexer.visits outside input past).map (fun visit => (visit.callee, visit.argument)) =
      lexer.leftmost.map (fun node => (.lexer node, input)) ∧
    (∀ visit ∈ lexer.visits outside input past, .mapper ∉ visit.place ∧ .second ∉ visit.place) ∧
    (∀ change, (lexer.mapPatterns change).answer outside input past =
      lexer.answer outside input past) ∧
    (probes.observe (lexer.answer outside input past).trace).counters = probes.counters ∧
    ∀ probe, (probes.observe (lexer.answer outside input past).trace).calls probe =
        probes.calls probe ++ List.replicate (lexer.leftmostRecorders.count probe) input ∧
      (0 < lexer.leftmostRecorders.count probe ↔
        ∃ inner, .recording probe inner ∈ lexer.leftmost) := by
  have rejected := patterned.answer_not_text other outside past
  refine ⟨⟨_, congrArg Traced.result rejected, rfl, rfl⟩,
    patterned.visits_not_text other outside past, patterned.place_not_text other outside past,
    fun change => patterned.answer_mapPatterns other change outside past, ?_, fun probe => ?_⟩
  · rw [rejected, Probes.observe_recorded]
  · rw [rejected, Probes.observe_recorded, List.count_pos_iff, mem_leftmostRecorders]
    exact ⟨rfl, Iff.rfl⟩

/-- Two recording lexers on the way to the leaf of `(.*)`, one in the alternative, and a mapper
that raises an error for every token. -/
def threeRecorders : Lexer Value :=
  .recording 0 (.mapped
    (.orElse
      (.recording 1 (.pattern (.linear [0x28, 0x2e, 0x2a, 0x29]
        (.group 1 (.repeated (.chars .notLineFeed) 0 none true)))))
      (.recording 2 .empty))
    (.counter 0 (.function .raise)))

theorem int_rejected_first :
    (∃ error, (threeRecorders.answer .nothing (.int 7) []).result = .error error ∧
      error.kind = .type ∧
      error.message = Text.ofString "input must be a string, got " ++ Text.ofString "int") ∧
    let after := Probes.fresh.observe (threeRecorders.answer .nothing (.int 7) []).trace
    after.calls 0 = [.int 7] ∧ after.calls 1 = [.int 7] ∧ after.calls 2 = [] ∧
      after.counters = Probes.fresh.counters := by
  have patterned : threeRecorders.Patterned fun _ => True :=
    .recording 0 (.mapped _ (.orElse (.recording 1 (.pattern trivial)) (.recording 2 .empty)))
  have other (text : Text) : Value.int 7 ≠ .text text := nofun
  obtain ⟨failed, _, _, _, counters, calls⟩ :=
    not_text_rejected_first patterned other .nothing [] Probes.fresh
  exact ⟨failed, (calls 0).1, (calls 1).1, (calls 2).1, counters⟩

end Lexer

end TokenLexer
