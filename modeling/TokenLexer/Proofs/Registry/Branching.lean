import Mathlib
import TokenLexer.Proofs.Registry.Chaining

/-!
# The branches of a loaded lexer

A lexer that was loaded has one branch for each rule, in the order of the rules: the leaf of
the rule's expression with the converter that is registered under the rule's name. It is one
level deeper than there are rules. Loading the rules in two parts and falling back from the
first part to the second does the same with every input.

Main statements: `load_ok_iff`, `load_induction` and `load_keeps_rules`.
-/

namespace TokenLexer

variable {outside : Outside} {engine : Engine} {registry : Registry}

namespace Lexer

variable {rules others : List (Lexer Value)} {input : Value}

theorem IsRule.branches {lexer : Lexer Value} (rule : lexer.IsRule) : lexer.branches = [lexer] := by
  obtain ⟨leaf, mapper, rfl⟩ := rule
  rfl

theorem IsRule.depth {lexer : Lexer Value} (rule : lexer.IsRule) : lexer.depth = 2 := by
  obtain ⟨leaf, mapper, rfl⟩ := rule
  rfl

/-- What choices keep holds of a chain if it holds of all lexers in it. -/
theorem orElseAll_induction {holds : Lexer Value → Prop}
    (choice : ∀ {first second : Lexer Value}, holds first → holds second →
      holds (.orElse first second))
    {first : Lexer Value} (front : holds first) (each : ∀ other ∈ others, holds other) :
    holds (first.orElseAll others) := by
  rw [orElseAll]
  exact List.foldlRecOn others _ front fun _ held other member => choice held (each other member)

/-- Every lexer behind the first one makes the chain one level deeper. -/
theorem depth_orElseAll {first : Lexer Value} (deep : 2 ≤ first.depth)
    (each : ∀ rule ∈ others, rule.depth = 2) :
    (first.orElseAll others).depth = first.depth + others.length := by
  induction others generalizing first with
  | nil => rfl
  | cons next others ih =>
    obtain ⟨two, rest⟩ := List.forall_mem_cons.mp each
    have deeper : (orElse first next).depth = first.depth + 1 := by
      rw [Lexer.depth, two, Nat.max_eq_left deep, Nat.add_comm]
    have still : 2 ≤ (orElse first next).depth := by
      rw [deeper]
      exact Nat.le_succ_of_le deep
    calc
      (first.orElseAll (next :: others)).depth = ((orElse first next).orElseAll others).depth := rfl
      _ = first.depth + 1 + others.length := by rw [ih still rest, deeper]
      _ = first.depth + (next :: others).length := by rw [List.length_cons]; omega

/-- The second lexer of a chain raises it to at least the level above its own, so a first one
that is no deeper does not show. -/
theorem depth_orElseAll_of_ne_nil (first : Lexer Value) (some : others ≠ [])
    (each : ∀ rule ∈ others, rule.depth = 2) :
    (first.orElseAll others).depth = others.length + max first.depth 2 := by
  cases others with
  | nil => exact absurd rfl some
  | cons next others =>
    obtain ⟨two, rest⟩ := List.forall_mem_cons.mp each
    have joined : (orElse first next).depth = 1 + max first.depth 2 := by
      rw [Lexer.depth, two]
    calc
      (first.orElseAll (next :: others)).depth = ((orElse first next).orElseAll others).depth := rfl
      _ = 1 + max first.depth 2 + others.length := by
          rw [depth_orElseAll (by omega) rest, joined]
      _ = (next :: others).length + max first.depth 2 := by rw [List.length_cons]; omega

theorem depth_inOrder (some : rules ≠ []) (each : ∀ rule ∈ rules, rule.IsRule) :
    (inOrder rules).depth = rules.length + 1 := by
  cases rules with
  | nil => exact absurd rfl some
  | cons first others =>
    have two := (each first List.mem_cons_self).depth
    rw [inOrder, depth_orElseAll (Nat.le_of_eq two.symm) ?_, two, List.length_cons]
    · omega
    · intro rule member
      exact (each rule (List.mem_cons_of_mem _ member)).depth

/-- Of lexers that are no choices, each is its own branch. -/
theorem flatMap_branches (each : ∀ rule ∈ rules, rule.branches = [rule]) :
    rules.flatMap branches = rules := by
  rw [List.flatMap_congr each]
  exact List.flatMap_singleton' _

theorem branches_inOrder (some : rules ≠ []) (each : ∀ rule ∈ rules, rule.IsRule) :
    (inOrder rules).branches = rules := by
  cases rules with
  | nil => exact absurd rfl some
  | cons first others =>
    rw [inOrder, branches_orElseAll, ← List.flatMap_cons]
    exact flatMap_branches fun rule member => (each rule member).branches

theorem properBranches_orElse (first second : Lexer Value) :
    (orElse first second).properBranches = first.properBranches ++ second.properBranches := by
  rw [properBranches, branches_orElse, List.filter_append]
  rfl

theorem properBranches_inOrder_eq (rules : List (Lexer Value)) :
    (inOrder rules).properBranches = rules.flatMap properBranches := by
  rw [properBranches_inOrder, properBranches, branches_orElseAll, List.filter_append,
    List.filter_flatMap]
  rfl

/-- Trying all rules in order is trying those of the first part, and then those of the second. -/
theorem run_inOrder_append (each : ∀ rule ∈ rules ++ others, rule.IsRule) (input : Value) :
    (inOrder (rules ++ others)).run outside input =
      (orElse (inOrder rules) (inOrder others)).run outside input := by
  by_cases textual : ∃ text, input = .text text
  · obtain ⟨text, rfl⟩ := textual
    have same : (inOrder (rules ++ others)).properBranches =
        (orElse (inOrder rules) (inOrder others)).properBranches := by
      simp only [properBranches_orElse, properBranches_inOrder_eq, List.flatMap_append]
    rw [run_eq_answer, run_eq_answer, answer_eq_of_properBranches same]
  · -- Both trees complain at their first leaf, which may be that of an empty part.
    have other (text : Text) : input ≠ .text text := fun same => textual ⟨text, same⟩
    have front (rule : Lexer Value) (member : rule ∈ rules) : rule.IsRule :=
      each rule (List.mem_append_left _ member)
    rw [run_inOrder_not_text each other, run, run_inOrder_not_text front other, Ongoing.fail_bind]

end Lexer

/-- The lexer is the leaf of the rule's expression with the converter that is registered under
the rule's name. -/
inductive RuleLexer (registry : Registry) (engine : Engine) : Rule → Lexer Value → Prop
  | mk {regex : Text} {name : Value} {leaf : Pattern Value} {converter mapper : Mapper Value}
      (compiled : engine.compile regex = .ok leaf) (one : leaf.groups = .int 1)
      (found : registry.find? name = .ok (some converter))
      (same : Value.ofMapper converter = .mapper mapper)
      (callable : (Value.mapper mapper).isCallable = true) :
      RuleLexer registry engine ⟨.text regex, name⟩ (.mapped (.pattern leaf) mapper)

theorem RuleLexer.isRule {rule : Rule} {lexer : Lexer Value}
    (made : RuleLexer registry engine rule lexer) : lexer.IsRule := by
  cases made
  exact ⟨_, _, rfl⟩

namespace Registry

variable {rules : List Rule} {lexer : Lexer Value}

/-- The configuration of these rules can be loaded. -/
def Accepts (registry : Registry) (engine : Engine) (rules : List Rule) : Prop :=
  ∃ lexer, (registry.load ⟨rules⟩ engine).result = .ok lexer

theorem loadRule_ok {rule : Rule} (loaded : (registry.loadRule rule engine).result = .ok lexer) :
    RuleLexer registry engine rule lexer := by
  obtain ⟨expression, name⟩ := rule
  rw [loadRule, Traced.result_bind] at loaded
  obtain ⟨length, _, loaded⟩ := bind_ok_iff.mp loaded
  dsimp only at loaded
  split at loaded
  · cases loaded
  · rw [Traced.result_bind] at loaded
    obtain ⟨found, looked, loaded⟩ := bind_ok_iff.mp loaded
    split at loaded
    · cases loaded
    · cases loaded
    · next converter _ =>
      have made := mapError_ok_iff.mp loaded
      obtain ⟨regex, leaf, mapper, rfl, compiled, one, same, callable, rfl⟩ :=
        Lexer.ofRegexMap_ok made
      exact .mk compiled one looked same (same ▸ callable)

/-- Loading succeeds when there are not too many rules and each of them can be loaded. -/
theorem load_ok_iff : (registry.load ⟨rules⟩ engine).result = .ok lexer ↔
    rules.length ≤ maxRules ∧ ∃ branches,
      (rules.mapM fun rule => (registry.loadRule rule engine).result) = .ok branches ∧
        Lexer.inOrder branches = lexer := by
  by_cases few : rules.length ≤ maxRules
  · rw [load_few few, map_ok_iff]
    simp only [few, true_and]
  · constructor
    · intro loaded
      rw [load_tooMany (Nat.not_le.mp few)] at loaded
      cases loaded
    · rintro ⟨fewer, _⟩
      exact absurd fewer few

/-- The lexers of the rules are their branches. -/
theorem ruleLexers {branches : List (Lexer Value)}
    (done : (rules.mapM fun rule => (registry.loadRule rule engine).result) = .ok branches) :
    List.Forall₂ (RuleLexer registry engine) rules branches :=
  (mapM_ok_iff_forall₂.mp done).imp fun _ _ => loadRule_ok

theorem isRule_of_mapM {branches : List (Lexer Value)}
    (done : (rules.mapM fun rule => (registry.loadRule rule engine).result) = .ok branches) :
    ∀ branch ∈ branches, branch.IsRule := by
  intro branch member
  obtain ⟨rule, _, loaded⟩ := mapM_mem done member
  exact (loadRule_ok loaded).isRule

/-- What choices keep holds of a loaded lexer if it holds of the lexer that never matches and
of the lexers of rules. -/
theorem load_induction {holds : Lexer Value → Prop} (empty : holds .empty)
    (choice : ∀ {first second : Lexer Value}, holds first → holds second →
      holds (.orElse first second))
    (single : ∀ {rule : Rule} {lexer : Lexer Value}, RuleLexer registry engine rule lexer →
      holds lexer)
    (loaded : (registry.load ⟨rules⟩ engine).result = .ok lexer) : holds lexer := by
  obtain ⟨_, branches, done, rfl⟩ := load_ok_iff.mp loaded
  have each (branch : Lexer Value) (member : branch ∈ branches) : holds branch := by
    obtain ⟨rule, _, loaded⟩ := mapM_mem done member
    exact single (loadRule_ok loaded)
  cases branches with
  | nil => exact empty
  | cons first others =>
    obtain ⟨front, rest⟩ := List.forall_mem_cons.mp each
    exact Lexer.orElseAll_induction choice front rest

/-- A loaded lexer never matches if there are no rules. Otherwise it has one branch for each
rule, in order, and is one level deeper than there are rules. If the rules are cut in two,
both parts can be loaded as well, and falling back from the first part to the second does the
same with every input. -/
theorem load_keeps_rules (loaded : (registry.load ⟨rules⟩ engine).result = .ok lexer) :
    (rules = [] → lexer = .empty ∧ lexer.depth = 1) ∧
    (rules ≠ [] → List.Forall₂ (RuleLexer registry engine) rules lexer.branches ∧
      lexer.depth = rules.length + 1 ∧ lexer.depth ≤ maxRules + 1) ∧
    ∀ front back, rules = front ++ back → ∃ first second joined,
      (registry.load ⟨front⟩ engine).result = .ok first ∧
      (registry.load ⟨back⟩ engine).result = .ok second ∧
      first.or (.lexer second) = .ok joined ∧
      ∀ outside input, lexer.run outside input = joined.run outside input := by
  obtain ⟨few, branches, done, rfl⟩ := load_ok_iff.mp loaded
  have made := ruleLexers done
  have leaves := isRule_of_mapM done
  have length := made.length_eq
  refine ⟨?_, fun some => ?_, ?_⟩
  · rintro rfl
    cases made
    exact ⟨rfl, rfl⟩
  · have present : branches ≠ [] := by
      rintro rfl
      exact some (List.length_eq_zero_iff.mp length)
    rw [Lexer.branches_inOrder present leaves, Lexer.depth_inOrder present leaves, ← length]
    exact ⟨made, rfl, Nat.succ_le_succ few⟩
  · rintro front back rfl
    obtain ⟨first, second, frontDone, backDone, rfl⟩ := mapM_append_ok.mp done
    rw [List.length_append] at few
    have fewFront : front.length ≤ maxRules := by omega
    have fewBack : back.length ≤ maxRules := by omega
    refine ⟨.inOrder first, .inOrder second, _, ?_, ?_, rfl, ?_⟩
    · exact load_ok_iff.mpr ⟨fewFront, first, frontDone, rfl⟩
    · exact load_ok_iff.mpr ⟨fewBack, second, backDone, rfl⟩
    · intro outside input
      exact Lexer.run_inOrder_append leaves input

/-- The lexer of the rules `()` and `(a)`, both with the one converter. -/
def twoBranches : Lexer Value :=
  .orElse (.mapped (.pattern (.linear [0x28, 0x29] (.group 1 .empty))) (.function .str))
    (.mapped (.pattern (.linear [0x28, 0x61, 0x29] (.group 1 (.chars (.single 0x61)))))
      (.function .str))

theorem load_keeps_two_rules :
    (oneConverter.load ⟨[⟨.text [0x28, 0x29], .text [0x73]⟩,
      ⟨.text [0x28, 0x61, 0x29], .text [0x73]⟩]⟩).result = .ok twoBranches ∧
    twoBranches.branches.length = 2 ∧ twoBranches.depth = 3 ∧
    ∃ first second joined,
      (oneConverter.load ⟨[⟨.text [0x28, 0x29], .text [0x73]⟩]⟩).result = .ok first ∧
      (oneConverter.load ⟨[⟨.text [0x28, 0x61, 0x29], .text [0x73]⟩]⟩).result = .ok second ∧
      first.or (.lexer second) = .ok joined ∧
      ∀ outside input, twoBranches.run outside input = joined.run outside input := by
  have loaded : (oneConverter.load ⟨[⟨.text [0x28, 0x29], .text [0x73]⟩,
      ⟨.text [0x28, 0x61, 0x29], .text [0x73]⟩]⟩).result = .ok twoBranches := by
    cbv
  obtain ⟨_, kept, split⟩ := load_keeps_rules loaded
  obtain ⟨made, depth, _⟩ := kept (List.cons_ne_nil _ _)
  refine ⟨loaded, made.length_eq.symm, depth, ?_⟩
  exact split [⟨.text [0x28, 0x29], .text [0x73]⟩] [⟨.text [0x28, 0x61, 0x29], .text [0x73]⟩] rfl

end Registry

end TokenLexer
