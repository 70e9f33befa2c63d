import Mathlib
import TokenLexer.Proofs.Lexer.Branches
import TokenLexer.Proofs.Registry.Loading

/-!
# Loading and chaining

A lexer that is loaded from rules does the same as one that is built by hand, by
falling back from one rule to the next. The two are different trees, since the chain
starts from the lexer that never matches and the loaded one from the first rule; and
where a rule is at fault, loading blames the configuration for it.

Main statement: `load_agrees_with_chain`.
-/

namespace TokenLexer

variable {outside : Outside} {engine : Engine} {registry : Registry}

namespace Lexer

/-! ## Chains of leaves -/

/-- The lexer transforms the token of a pattern. -/
def IsRule (lexer : Lexer Value) : Prop :=
  ∃ leaf mapper, lexer = .mapped (.pattern leaf) mapper

theorem branches_orElseAll (first : Lexer Value) (others : List (Lexer Value)) :
    (first.orElseAll others).branches = first.branches ++ others.flatMap branches := by
  induction others generalizing first with
  | nil => exact (List.append_nil _).symm
  | cons next others ih =>
    rw [List.flatMap_cons, ← List.append_assoc, ← branches_orElse]
    exact ih _

theorem properBranches_inOrder (rules : List (Lexer Value)) :
    (inOrder rules).properBranches = (orElseAll .empty rules).properBranches := by
  cases rules with
  | nil => rfl
  | cons first others =>
    show (first.orElseAll others).properBranches = _
    rw [properBranches, properBranches, branches_orElseAll, branches_orElseAll, List.flatMap_cons]
    rfl

/-- The first lexer of a chain decides about an input that it complains about. -/
theorem run_orElseAll_fail {first : Lexer Value} {input : Value} {error : Error}
    (failed : first.run outside input = Ongoing.fail error) (others : List (Lexer Value)) :
    (first.orElseAll others).run outside input = Ongoing.fail error := by
  induction others generalizing first with
  | nil => exact failed
  | cons next others ih =>
    refine @ih (.orElse first next) ?_
    rw [run, failed, Ongoing.fail_bind]

theorem onText_not_text {input : Value} (other : ∀ text, input ≠ .text text)
    (read : Text → Except Error (Option Value)) :
    onText input read = Ongoing.fail (.inputNotText input.typeName) := by
  cases input with
  | text text => exact absurd rfl (other text)
  | _ => rfl

theorem run_empty_not_text {input : Value} (other : ∀ text, input ≠ .text text) :
    (empty : Lexer Value).run outside input = Ongoing.fail (.inputNotText input.typeName) :=
  onText_not_text other _

theorem IsRule.run_not_text {lexer : Lexer Value} (rule : lexer.IsRule) {input : Value}
    (other : ∀ text, input ≠ .text text) :
    lexer.run outside input = Ongoing.fail (.inputNotText input.typeName) := by
  obtain ⟨leaf, mapper, rfl⟩ := rule
  rw [run, run, onText_not_text other, Ongoing.fail_bind]

theorem run_inOrder_not_text {rules : List (Lexer Value)} (each : ∀ rule ∈ rules, rule.IsRule)
    {input : Value} (other : ∀ text, input ≠ .text text) :
    (inOrder rules).run outside input = Ongoing.fail (.inputNotText input.typeName) := by
  cases rules with
  | nil => exact run_empty_not_text other
  | cons first others =>
    exact run_orElseAll_fail ((each first List.mem_cons_self).run_not_text other) others

/-- Starting from the first rule or from the lexer that never matches is the same. -/
theorem run_inOrder {rules : List (Lexer Value)} (each : ∀ rule ∈ rules, rule.IsRule)
    (input : Value) :
    (inOrder rules).run outside input = (orElseAll .empty rules).run outside input := by
  -- A text finds the same proper branches in both; any other input meets a complaint at the
  -- first leaf, which is the empty lexer in one tree and the first rule in the other.
  by_cases textual : ∃ text, input = .text text
  · obtain ⟨text, rfl⟩ := textual
    rw [run_eq_answer, run_eq_answer, answer_eq_of_properBranches (properBranches_inOrder rules)]
  · have other (text : Text) : input ≠ .text text := fun same => textual ⟨text, same⟩
    rw [run_orElseAll_fail (run_empty_not_text other), run_inOrder_not_text each other]

/-! ## Chains of expressions -/

/-- Falls back from the lexer to one expression with a mapper after another. -/
def orRegexAll (engine : Engine) (lexer : Lexer Value) (calls : List (Value × Value)) :
    Build (Lexer Value) :=
  calls.foldlM (fun (lexer : Lexer Value) call => lexer.orRegex call.1 call.2 engine) lexer

theorem orRegex_result (lexer : Lexer Value) (regex mapper : Value) :
    (lexer.orRegex regex mapper engine).result =
      (ofRegexMap regex mapper engine).result.map (.orElse lexer) := by
  rw [orRegex, Traced.result_bind]
  cases (ofRegexMap regex mapper engine).result <;> rfl

/-- The chain is built from the lexers of the expressions, all of which have to be there. -/
theorem orRegexAll_result (calls : List (Value × Value)) (lexer : Lexer Value) :
    (lexer.orRegexAll engine calls).result =
      (calls.mapM fun call => (ofRegexMap call.1 call.2 engine).result).map lexer.orElseAll := by
  induction calls generalizing lexer with
  | nil => rfl
  | cons call rest ih =>
    rw [orRegexAll, List.foldlM_cons, Traced.result_bind, orRegex_result, List.mapM_cons]
    cases (ofRegexMap call.1 call.2 engine).result with
    | error error => rfl
    | ok first =>
      simp only [Except.map, ok_bind]
      rw [← orRegexAll, ih]
      cases rest.mapM fun call => (ofRegexMap call.1 call.2 engine).result <;> rfl

end Lexer

namespace Registry

/-! ## Chains of rules -/

/-- The lexers of the rules, built by hand one after another. -/
def branchesOf (registry : Registry) (engine : Engine) (rules : List (Text × Text)) :
    Except Error (List (Lexer Value)) :=
  rules.mapM fun rule => (registry.branch engine rule.1 rule.2).result

/-- Falls back from the lexer to one rule after another. -/
def chainOnto (registry : Registry) (engine : Engine) (lexer : Lexer Value)
    (rules : List (Text × Text)) : Build (Lexer Value) :=
  rules.foldlM (fun (lexer : Lexer Value) rule =>
    lexer.orRegex (.text rule.1) (registry.converter rule.2) engine) lexer

/-- Builds the lexer of the rules by hand. -/
def chain (registry : Registry) (engine : Engine) (rules : List (Text × Text)) :
    Build (Lexer Value) :=
  registry.chainOnto engine .empty rules

/-- The chain can be built. -/
def Chains (registry : Registry) (engine : Engine) (rules : List (Text × Text)) : Prop :=
  ∃ lexer, (registry.chain engine rules).result = .ok lexer

theorem chainOnto_eq (rules : List (Text × Text)) (lexer : Lexer Value) :
    registry.chainOnto engine lexer rules = lexer.orRegexAll engine
      (rules.map fun rule => (.text rule.1, registry.converter rule.2)) := by
  rw [chainOnto, Lexer.orRegexAll, List.foldlM_map]

theorem chainOnto_result (rules : List (Text × Text)) (lexer : Lexer Value) :
    (registry.chainOnto engine lexer rules).result =
      (registry.branchesOf engine rules).map lexer.orElseAll := by
  rw [chainOnto_eq, Lexer.orRegexAll_result, List.mapM_map]
  rfl

theorem chain_result (rules : List (Text × Text)) :
    (registry.chain engine rules).result =
      (registry.branchesOf engine rules).map (Lexer.orElseAll .empty) :=
  chainOnto_result rules .empty

/-! ## Both ways agree -/

/-- The rules pass the checks that the registry makes before it compiles anything. -/
structure Admits (registry : Registry) (rules : List (Text × Text)) : Prop where
  few : rules.length ≤ maxRules
  short : ∀ rule ∈ rules, rule.1.length ≤ maxRegexLength
  known : ∀ rule ∈ rules, registry.contains (.text rule.2) = .ok true

variable {rules before after : List (Text × Text)} {rule : Text × Text}

theorem Admits.left (admits : registry.Admits (before ++ after)) : registry.Admits before where
  few := Nat.le_trans (by rw [List.length_append]; exact Nat.le_add_right _ _) admits.few
  short other member := admits.short other (List.mem_append_left _ member)
  known other member := admits.known other (List.mem_append_left _ member)

/-- Loading goes the way of the chain, apart from the tree and the blame. -/
theorem Sound.load_eq_branches (sound : registry.Sound) (admits : registry.Admits rules) :
    (registry.load (.ofTexts rules) engine).result =
      ((registry.branchesOf engine rules).mapError blameConfig).map Lexer.inOrder := by
  rw [load_result admits.few, branchesOf, ← mapM_mapError]
  refine congrArg (Except.map Lexer.inOrder) (mapM_congr fun rule member => ?_)
  exact sound.loadRule_known (admits.short rule member) (admits.known rule member)

theorem Sound.isRule_of_branch (sound : registry.Sound)
    (known : registry.contains (.text rule.2) = .ok true) {lexer : Lexer Value}
    (made : (registry.branch engine rule.1 rule.2).result = .ok lexer) : lexer.IsRule := by
  obtain ⟨leaf, _, _, rfl⟩ := (sound.branch_ok_iff known).mp made
  exact ⟨leaf, _, rfl⟩

theorem Sound.branch_error (strict : engine.Strict) (sound : registry.Sound)
    (known : registry.contains (.text rule.2) = .ok true) (encodable : rule.1.isWellFormed = true)
    {cause : Error} (failed : (registry.branch engine rule.1 rule.2).result = .error cause) :
    ExpressionFault engine rule.1 cause := by
  rcases (sound.branch_error_iff known).mp failed with fault | fails
  · exact fault
  · obtain ⟨lone, _⟩ := strict.failsOn_iff.mp fails
    rw [encodable] at lone
    cases lone

/-- Both ways succeed where every branch can be built. -/
theorem Sound.both_ok (sound : registry.Sound) (admits : registry.Admits rules)
    {branches : List (Lexer Value)} (made : registry.branchesOf engine rules = .ok branches) :
    (registry.load (.ofTexts rules) engine).result = .ok (.inOrder branches) ∧
      (registry.chain engine rules).result = .ok (.orElseAll .empty branches) := by
  rw [sound.load_eq_branches admits, chain_result, made]
  exact ⟨rfl, rfl⟩

/-- Both ways fail with the first branch that cannot be built. -/
theorem Sound.both_error (sound : registry.Sound) (admits : registry.Admits rules) {cause : Error}
    (fault : ExpressionFault engine rule.1 cause)
    (failed : registry.branchesOf engine rules = .error cause) :
    (registry.load (.ofTexts rules) engine).result = .error (.invalidConfig cause) ∧
      (registry.chain engine rules).result = .error cause := by
  rw [sound.load_eq_branches admits, chain_result, failed, ← blameConfig_fault fault]
  exact ⟨rfl, rfl⟩

/-- Loading rules and chaining them by hand agree, for rules that pass the earlier checks
and can be encoded. Either both ways succeed, and the lexers do the same with every
input: they return the same, fail with the same error and call the same converters. Or
both fail at the same rule, and loading blames the configuration for what the chain
complains about. -/
theorem load_agrees_with_chain (strict : engine.Strict) (built : registry.Built)
    (admits : registry.Admits rules) (encodable : ∀ rule ∈ rules, rule.1.isWellFormed = true) :
    (∃ loaded chained,
      (registry.load (.ofTexts rules) engine).result = .ok loaded ∧
      (registry.chain engine rules).result = .ok chained ∧
      ∀ outside input, loaded.run outside input = chained.run outside input) ∨
    (∃ before rule after cause, rules = before ++ rule :: after ∧
      registry.Loads engine before ∧ registry.Chains engine before ∧
      (∀ failing, failing = before ++ [rule] ∨ failing = rules →
        (registry.load (.ofTexts failing) engine).result = .error (.invalidConfig cause) ∧
        (registry.chain engine failing).result = .error cause) ∧
      ExpressionFault engine rule.1 cause ∧
      (Error.invalidConfig cause).cause? = some cause ∧
      (Error.invalidConfig cause).source? = some cause.message) := by
  have sound := built.sound
  cases made : registry.branchesOf engine rules with
  | ok branches =>
    obtain ⟨loaded, chained⟩ := sound.both_ok admits made
    refine Or.inl ⟨_, _, loaded, chained, fun outside input => Lexer.run_inOrder ?_ input⟩
    intro branch member
    obtain ⟨rule, present, done⟩ := mapM_mem made member
    exact sound.isRule_of_branch (admits.known rule present) done
  | error cause =>
    obtain ⟨before, rule, after, rfl, passed, failed⟩ := mapM_error_iff.mp made
    have present : rule ∈ before ++ rule :: after := by simp
    have fault :=
      sound.branch_error strict (admits.known rule present) (encodable rule present) failed
    obtain ⟨branches, done⟩ := mapM_ok_iff.mpr passed
    obtain ⟨loaded, chained⟩ := sound.both_ok admits.left done
    refine Or.inr ⟨before, rule, after, cause, rfl, ⟨_, loaded⟩, ⟨_, chained⟩, ?_, fault, rfl, rfl⟩
    rintro failing (rfl | rfl)
    · have upTo : registry.Admits (before ++ [rule]) := by
        rw [List.append_cons] at admits
        exact admits.left
      have stopped := mapM_error_iff.mpr ⟨before, rule, [], rfl, passed, failed⟩
      exact sound.both_error upTo fault stopped
    · exact sound.both_error admits fault made

/-- The rules `(a)` and `a()`, which both match `a` and find different tokens there. -/
def rivals : List (Text × Text) :=
  [([0x28, 0x61, 0x29], [0x73]), ([0x61, 0x28, 0x29], [0x73])]

/-- The same with a rule between them whose expression has no group. -/
def brokenRivals : List (Text × Text) :=
  [([0x28, 0x61, 0x29], [0x73]), ([0x61], [0x73]), ([0x61, 0x28, 0x29], [0x73])]

/-- The lexer of the rule `(a)`. -/
def letterBranch : Lexer Value :=
  .mapped (.pattern (.linear [0x28, 0x61, 0x29] (.group 1 (.chars (.single 0x61)))))
    (.function .str)

/-- The lexer of the rule `a()`. -/
def blankBranch : Lexer Value :=
  .mapped (.pattern (.linear [0x61, 0x28, 0x29]
    (.seq (.chars (.single 0x61)) (.group 1 .empty)))) (.function .str)

theorem oneConverter_admits (few : rules.length ≤ 3)
    (each : ∀ rule ∈ rules, rule.1.length ≤ 3 ∧ rule.2 = [0x73]) : oneConverter.Admits rules where
  few := Nat.le_trans few (by decide)
  short rule member := Nat.le_trans (each rule member).1 (by decide)
  known rule member := by
    rw [(each rule member).2]
    exact oneConverter_built.sound.contains_text _

/-- Both ways join two rules in the order of the list, so that the first one finds the token.
Of three rules both stop at the second one. -/
theorem load_agrees_with_chain_of_rivals :
    ((oneConverter.load (.ofTexts rivals)).result = .ok (.orElse letterBranch blankBranch) ∧
      (oneConverter.chain .linear rivals).result =
        .ok (.orElse (.orElse .empty letterBranch) blankBranch) ∧
      (∀ outside input, (Lexer.orElse letterBranch blankBranch).run outside input =
        (Lexer.orElse (.orElse .empty letterBranch) blankBranch).run outside input) ∧
      blankBranch.tryMatch (.text [0x61]) = .ok (some (.text [])) ∧
      (Lexer.orElse (.orElse .empty letterBranch) blankBranch).tryMatch (.text [0x61]) =
        .ok (some (.text [0x61]))) ∧
    oneConverter.Loads .linear (brokenRivals.take 1) ∧
    oneConverter.Chains .linear (brokenRivals.take 1) ∧
    ∀ failing, failing = brokenRivals.take 2 ∨ failing = brokenRivals →
      (oneConverter.load (.ofTexts failing)).result =
        .error (.invalidConfig (.wrongGroupCount [0x61] (.int 0))) ∧
      (oneConverter.chain .linear failing).result = .error (.wrongGroupCount [0x61] (.int 0)) := by
  constructor
  · have loaded : (oneConverter.load (.ofTexts rivals)).result =
        .ok (.orElse letterBranch blankBranch) := by
      cbv
    have chained : (oneConverter.chain .linear rivals).result =
        .ok (.orElse (.orElse .empty letterBranch) blankBranch) := by
      cbv
    have admits : oneConverter.Admits rivals := oneConverter_admits (by decide) (by decide)
    rcases load_agrees_with_chain Engine.linear_strict oneConverter_built admits (by decide) with
      ⟨_, _, done, joined, agree⟩ | ⟨_, _, _, _, _, _, _, both, _⟩
    · cases loaded.symm.trans done
      cases chained.symm.trans joined
      exact ⟨loaded, chained, agree, by cbv, by cbv⟩
    · cases loaded.symm.trans (both _ (Or.inr rfl)).1
  · have refused : (oneConverter.load (.ofTexts brokenRivals)).result =
        .error (.invalidConfig (.wrongGroupCount [0x61] (.int 0))) := by
      cbv
    have admits : oneConverter.Admits brokenRivals := oneConverter_admits (by decide) (by decide)
    rcases load_agrees_with_chain Engine.linear_strict oneConverter_built admits (by decide) with
      ⟨_, _, done, _⟩ | ⟨before, ⟨regex, name⟩, after, cause, split, loads, chains, both, fault, _⟩
    · cases refused.symm.trans done
    · have blamed := Except.error.inj (refused.symm.trans (both _ (Or.inr rfl)).1)
      -- The complaint quotes the expression, and so the rule is the second one.
      cases fault with
      | rejected => cases blamed
      | wrongGroupCount =>
        cases blamed
        simp only [brokenRivals] at split
        rcases before with _ | ⟨_, _ | ⟨_, _ | ⟨_, _⟩⟩⟩
        · cases split
        · cases split
          exact ⟨loads, chains, both⟩
        · cases split
        · simp at split

end Registry

end TokenLexer
