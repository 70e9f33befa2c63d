import TokenLexer.Proofs.Lexer.Memory
import TokenLexer.Proofs.Lexer.Rejection
import TokenLexer.Proofs.Registry.Branching

/-!
# Texts that cannot be encoded

An engine that encodes a text strictly before it matches it refuses every text with a lone
surrogate, and a leaf takes the refusal for a non-match. So a lexer that was built from
expressions finds nothing in such a text, whatever the expressions: none of its mappers is
called, and falling back from it does what the other lexer does.

Main statements: `OfExpressions.strict`, `Patterned.run_lone` and `lone_surrogate_never_matches`.
-/

namespace TokenLexer

/-- The pattern encodes a text before it matches it, and refuses one that it cannot encode. -/
def Pattern.Strict (leaf : Pattern Value) : Prop :=
  ∀ text : Text, text.isWellFormed = false → leaf.fullMatch text = .unencodable

/-- Whatever the engine compiles encodes its texts. -/
def Engine.EncodesTexts (engine : Engine) : Prop :=
  ∀ {regex : Text} {leaf : Pattern Value}, engine.compile regex = .ok leaf → leaf.Strict

theorem Engine.linear_encodesTexts : Engine.linear.EncodesTexts := by
  intro regex leaf compiled text lone
  obtain ⟨tree, _, rfl⟩ := Pattern.compile_ok compiled
  rw [Pattern.fullMatch, lone, if_neg Bool.false_ne_true]

theorem Pattern.Strict.token?_eq_none {leaf : Pattern Value} (strict : leaf.Strict) {text : Text}
    (lone : text.isWellFormed = false) : leaf.token? text = .ok none := by
  rw [Pattern.token?, strict text lone]

namespace Lexer

variable {outside : Outside} {engine : Engine} {lexer next first : Lexer Value} {text : Text}
  {past : List Event}

/-! ## Lexers of expressions -/

/-- The lexer was built from expressions alone, by calls that succeeded. -/
inductive OfExpressions (engine : Engine) : Lexer Value → Prop
  | empty : OfExpressions engine .empty
  | ofRegex {lexer : Lexer Value} {regex : Value}
      (made : (ofRegex regex engine).result = .ok lexer) : OfExpressions engine lexer
  | map {lexer next : Lexer Value} {mapper : Value} (built : OfExpressions engine lexer)
      (made : lexer.map mapper = .ok next) : OfExpressions engine next
  | or {first second next : Lexer Value} (built : OfExpressions engine first)
      (other : OfExpressions engine second) (made : first.or (.lexer second) = .ok next) :
      OfExpressions engine next
  | orRegex {lexer next : Lexer Value} {regex mapper : Value} (built : OfExpressions engine lexer)
      (made : (lexer.orRegex regex mapper engine).result = .ok next) : OfExpressions engine next
  | load {lexer : Lexer Value} {registry : Registry} {config : Config}
      (made : (registry.load config engine).result = .ok lexer) : OfExpressions engine lexer
  | recording {lexer : Lexer Value} (probe : Nat) (built : OfExpressions engine lexer) :
      OfExpressions engine (.recording probe lexer)

theorem ofRegexMap_strict (encodes : engine.EncodesTexts) {regex mapper : Value}
    (made : (ofRegexMap regex mapper engine).result = .ok lexer) :
    lexer.Patterned Pattern.Strict := by
  obtain ⟨_, leaf, _, _, compiled, _, _, _, rfl⟩ := ofRegexMap_ok made
  exact .mapped _ (.pattern (encodes compiled))

theorem load_strict (encodes : engine.EncodesTexts) {registry : Registry} {config : Config}
    (made : (registry.load config engine).result = .ok lexer) :
    lexer.Patterned Pattern.Strict := by
  refine Registry.load_induction .empty .orElse (fun rule => ?_) made
  cases rule with
  | mk compiled => exact .mapped _ (.pattern (encodes compiled))

/-- Every pattern in a lexer that was built from expressions encodes its texts. -/
theorem OfExpressions.strict (encodes : engine.EncodesTexts) (built : OfExpressions engine lexer) :
    lexer.Patterned Pattern.Strict := by
  induction built with
  | empty => exact .empty
  | ofRegex made =>
    obtain ⟨_, leaf, _, compiled, _, rfl⟩ := ofRegex_ok made
    exact .pattern (encodes compiled)
  | map _ made ih =>
    obtain ⟨mapper, _, _, rfl⟩ := map_ok made
    exact .mapped mapper ih
  | or _ _ made ih other =>
    cases made
    exact .orElse ih other
  | orRegex _ made ih =>
    rw [Lexer.orRegex, Traced.result_bind] at made
    obtain ⟨branch, read, made⟩ := bind_ok_iff.mp made
    cases made
    exact .orElse ih (ofRegexMap_strict encodes read)
  | load made => exact load_strict encodes made
  | recording probe _ ih => exact .recording probe ih

/-! ## Texts with lone surrogates -/

/-- The recording lexers in the tree, in the order in which a match comes to them. -/
def recorders : Lexer Value → List Nat
  | .mapped inner _ => recorders inner
  | .orElse first second => recorders first ++ recorders second
  | .recording probe inner => probe :: recorders inner
  | _ => []

/-- No leaf finds anything, so all lexers in the tree are asked and no mapper is called. -/
theorem Patterned.run_lone (strict : lexer.Patterned Pattern.Strict)
    (lone : text.isWellFormed = false) (outside : Outside) (past : List Event) :
    lexer.run outside (.text text) past =
      ⟨lexer.recorders.map (.recorded · (.text text)), .ok none⟩ := by
  induction strict generalizing past with
  | empty => rfl
  | pattern strict => exact congrArg Traced.ofExcept (strict.token?_eq_none lone)
  | mapped mapper _ ih =>
    rw [run, Ongoing.bind_apply, ih]
    exact Traced.ext (List.append_nil _) rfl
  | orElse _ _ front back =>
    rw [run, Ongoing.bind_apply, front, Traced.bind_ok rfl, recorders, List.map_append]
    dsimp only
    rw [back]
  | recording probe _ ih =>
    rw [run, Ongoing.bind_apply, Traced.bind_ok rfl, ih]
    rfl

theorem Patterned.answer_lone (strict : lexer.Patterned Pattern.Strict)
    (lone : text.isWellFormed = false) (outside : Outside) (past : List Event) :
    lexer.answer outside (.text text) past =
      ⟨lexer.recorders.map (.recorded · (.text text)), .ok .none⟩ := by
  refine Traced.ext ?_ ?_
  · rw [answer_trace, strict.run_lone lone]
  · rw [answer_result, strict.run_lone lone]
    rfl

theorem Patterned.visits_lone (strict : lexer.Patterned Pattern.Strict)
    (lone : text.isWellFormed = false) (outside : Outside) (past : List Event) :
    ∀ visit ∈ lexer.visits outside (.text text) past, ∃ called, visit.callee = .lexer called := by
  induction strict generalizing past with
  | empty => simp [visits]
  | pattern => simp [visits]
  | mapped mapper inside ih =>
    simp only [visits, inside.run_lone lone, List.append_nil, List.forall_mem_cons,
      List.forall_mem_map]
    exact ⟨⟨_, rfl⟩, ih past⟩
  | orElse front back ihFront ihBack =>
    simp only [visits, front.run_lone lone, List.forall_mem_cons, List.forall_mem_append,
      List.forall_mem_map]
    exact ⟨⟨_, rfl⟩, ihFront past, ihBack _⟩
  | recording probe _ ih =>
    simp only [visits, List.forall_mem_cons, List.forall_mem_map]
    exact ⟨⟨_, rfl⟩, ih _⟩

/-- A match of the text that comes before does not show in the match of another lexer: it makes
no calls that anything could remember. -/
theorem Patterned.answer_orElse_lone (strict : first.Patterned Pattern.Strict)
    (lone : text.isWellFormed = false) (outside : Outside) (second : Lexer Value)
    (past : List Event) :
    (Lexer.orElse first second).answer outside (.text text) past =
      ⟨first.recorders.map (.recorded · (.text text)) ++
          (second.answer outside (.text text) past).trace,
        (second.answer outside (.text text) past).result⟩ := by
  have silent : (first.recorders.map (Event.recorded · (.text text))).filter Event.isCall = [] := by
    simp [List.filter_eq_nil_iff, Event.isCall]
  have same : second.answer outside (.text text)
      (past ++ first.recorders.map (.recorded · (.text text))) =
        second.answer outside (.text text) past := by
    refine second.answer_recalls outside (.text text) _ _ ?_
    rw [List.filter_append, silent, List.append_nil]
  rw [answer_orElse, Ongoing.bind_apply, strict.answer_lone lone, Traced.bind_ok rfl,
    Value.orNext_none, same]

/-- A lexer that was built from expressions returns `none` for every text with a lone surrogate.
No mapper is called, and nothing happens but that the recording lexers in the tree record the
text. Falling back from it to another lexer does what the other lexer does. -/
theorem lone_surrogate_never_matches (encodes : engine.EncodesTexts)
    (built : OfExpressions engine lexer) (lone : text.isWellFormed = false) (outside : Outside)
    (past : List Event) :
    lexer.answer outside (.text text) past =
      ⟨lexer.recorders.map (.recorded · (.text text)), .ok .none⟩ ∧
    (∀ visit ∈ lexer.visits outside (.text text) past, ∃ called, visit.callee = .lexer called) ∧
    ∀ other, ∃ joined, lexer.or (.lexer other) = .ok joined ∧
      joined.answer outside (.text text) past =
        ⟨lexer.recorders.map (.recorded · (.text text)) ++
            (other.answer outside (.text text) past).trace,
          (other.answer outside (.text text) past).result⟩ := by
  have strict := built.strict encodes
  refine ⟨strict.answer_lone lone outside past, strict.visits_lone lone outside past, ?_⟩
  intro other
  exact ⟨_, rfl, strict.answer_orElse_lone lone outside other past⟩

/-- The lexer of `(.*)`, which records its texts, with a mapper that raises an error for every
token. -/
def raisingOnLine : Lexer Value :=
  .mapped
    (.recording 0 (.pattern (.linear [0x28, 0x2e, 0x2a, 0x29]
      (.group 1 (.repeated (.chars .notLineFeed) 0 none true)))))
    (.function .raise)

theorem lone_surrogate_never_raises :
    Text.isWellFormed [0x61, 0xd800] = false ∧
      raisingOnLine.answer .nothing (.text [0x61, 0xd800]) [] =
        ⟨[.recorded 0 (.text [0x61, 0xd800])], .ok .none⟩ ∧
      (raisingOnLine.answer .nothing (.text [0x61]) []).result = .error (.refused "boom") ∧
      ∃ joined, raisingOnLine.or (.lexer (.constant (.int 0))) = .ok joined ∧
        joined.answer .nothing (.text [0x61, 0xd800]) [] =
          ⟨[.recorded 0 (.text [0x61, 0xd800])], .ok (.int 0)⟩ := by
  have made : (ofRegex (.text [0x28, 0x2e, 0x2a, 0x29])).result =
      .ok (.pattern (.linear [0x28, 0x2e, 0x2a, 0x29]
        (.group 1 (.repeated (.chars .notLineFeed) 0 none true)))) := by
    cbv
  have mapped : (recording 0 (.pattern (.linear [0x28, 0x2e, 0x2a, 0x29]
      (.group 1 (.repeated (.chars .notLineFeed) 0 none true))))).map (.mapper (.function .raise)) =
        .ok raisingOnLine := rfl
  have built : OfExpressions .linear raisingOnLine := .map (.recording 0 (.ofRegex made)) mapped
  have lone : Text.isWellFormed [0x61, 0xd800] = false := rfl
  obtain ⟨silent, _, falls⟩ :=
    lone_surrogate_never_matches Engine.linear_encodesTexts built lone .nothing []
  exact ⟨lone, silent, by cbv, falls (.constant (.int 0))⟩

end Lexer

end TokenLexer
