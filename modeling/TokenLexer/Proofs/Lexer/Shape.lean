import TokenLexer.Proofs.Lexer.Distribution

/-!
# The shape of a lexer

Branches and depth are two ways to look at one tree. Going for the branches stops at everything
that is no choice, while the depth also counts what is nested inside of a transformation. So a
lexer has at most twice as many branches with each level, and none of them is deeper than the
lexer. Choosing between the branches again, one after another, gives the same branches, and
falling back to further expressions adds one branch and one level for each of them.

Main statement: `branches_bounded_by_depth`.
-/

namespace TokenLexer

namespace Lexer

/-! ## Branches -/

section

variable {V : Type} {lexer branch : Lexer V}

theorem branches_ne_nil (lexer : Lexer V) : lexer.branches ≠ [] := by
  induction lexer with
  | orElse first second front _ =>
    rw [branches_orElse]
    exact List.append_ne_nil_of_left_ne_nil front _
  | _ => exact List.cons_ne_nil _ _

/-- No branch is a choice, so it is its own and only branch. -/
theorem branches_of_mem_branches (member : branch ∈ lexer.branches) :
    branch.branches = [branch] := by
  induction lexer with
  | orElse first second front back =>
    rw [branches_orElse, List.mem_append] at member
    exact member.elim front back
  | _ =>
    obtain rfl := List.mem_singleton.mp member
    rfl

/-- A choice has at least two branches. -/
theorem ne_orElse_of_branches (single : branch.branches = [branch]) (first second : Lexer V) :
    branch ≠ .orElse first second := by
  rintro rfl
  have counted := congrArg List.length single
  rw [branches_orElse, List.length_append, List.length_singleton] at counted
  have front := List.length_pos_of_ne_nil (branches_ne_nil first)
  have back := List.length_pos_of_ne_nil (branches_ne_nil second)
  omega

theorem depth_le_of_mem_branches (member : branch ∈ lexer.branches) :
    branch.depth ≤ lexer.depth := by
  induction lexer with
  | orElse first second front back =>
    rw [branches_orElse, List.mem_append] at member
    rw [depth]
    rcases member with early | late
    · have := front early
      omega
    · have := back late
      omega
  | _ =>
    obtain rfl := List.mem_singleton.mp member
    exact Nat.le_refl _

/-- Each level at most doubles the number of branches. -/
theorem length_branches_le (lexer : Lexer V) : lexer.branches.length ≤ 2 ^ (lexer.depth - 1) := by
  induction lexer with
  | orElse first second front back =>
    have above (part : Nat) (below : part ≤ max first.depth second.depth) :
        2 ^ (part - 1) ≤ 2 ^ (max first.depth second.depth - 1) :=
      Nat.pow_le_pow_right Nat.two_pos (Nat.sub_le_sub_right below 1)
    have level : (max first.depth second.depth - 1).succ = max first.depth second.depth := by
      have := depth_pos first
      omega
    calc
      (orElse first second).branches.length = first.branches.length + second.branches.length := by
          rw [branches_orElse, List.length_append]
      _ ≤ 2 ^ (first.depth - 1) + 2 ^ (second.depth - 1) := Nat.add_le_add front back
      _ ≤ 2 ^ (max first.depth second.depth - 1) + 2 ^ (max first.depth second.depth - 1) :=
          Nat.add_le_add (above _ (Nat.le_max_left _ _)) (above _ (Nat.le_max_right _ _))
      _ = 2 ^ max first.depth second.depth := by rw [← Nat.two_mul, ← Nat.pow_succ', level]
      _ = 2 ^ ((orElse first second).depth - 1) := by rw [depth, Nat.add_sub_cancel_left]
  | _ => exact Nat.one_le_two_pow

end

/-! ## Choosing again -/

variable {engine : Engine} {lexer chained : Lexer Value} {calls : List (Value × Value)}

/-- Choosing between the branches of a lexer leads to the same branches. -/
theorem branches_orElseAll_branches {first : Lexer Value} {others : List (Lexer Value)}
    (split : lexer.branches = first :: others) :
    (first.orElseAll others).branches = lexer.branches := by
  rw [branches_orElseAll, ← List.flatMap_cons, ← split]
  exact flatMap_branches fun _ => branches_of_mem_branches

/-- The lexers that a chain of expressions adds are those of the expressions, in order. -/
theorem orRegexAll_ok (done : (lexer.orRegexAll engine calls).result = .ok chained) :
    ∃ added, List.Forall₂ (fun call branch => (ofRegexMap call.1 call.2 engine).result = .ok branch)
        calls added ∧
      (∀ branch ∈ added, branch.IsRule) ∧ chained = lexer.orElseAll added := by
  rw [orRegexAll_result, map_ok_iff] at done
  obtain ⟨added, made, rfl⟩ := done
  refine ⟨added, mapM_ok_iff_forall₂.mp made, fun branch member => ?_, rfl⟩
  obtain ⟨call, _, built⟩ := mapM_mem made member
  obtain ⟨regex, leaf, mapper, _, _, _, _, _, rfl⟩ := ofRegexMap_ok built
  exact ⟨leaf, mapper, rfl⟩

/-- How the branches of a lexer go with its depth. There are branches, none of them is a choice or
deeper than the lexer, and each level at most doubles their number. Falling back from the first
branch to the others gives a lexer with the same branches. And falling back to expressions, of
which there is at least one, puts their lexers behind the branches in order, and adds as many
levels; a lexer that is less deep than the lexer of an expression counts like one. -/
theorem branches_bounded_by_depth (lexer : Lexer Value) :
    lexer.branches ≠ [] ∧
    (∀ branch ∈ lexer.branches, ∀ first second, branch ≠ .orElse first second) ∧
    lexer.branches.length ≤ 2 ^ (lexer.depth - 1) ∧
    (∃ first others rebuilt, lexer.branches = first :: others ∧
      first.orAll others = .ok rebuilt ∧ rebuilt.branches = lexer.branches) ∧
    (∀ branch ∈ lexer.branches, branch.depth ≤ lexer.depth) ∧
    ∀ engine calls chained, calls ≠ [] →
      (lexer.orRegexAll engine calls).result = .ok chained →
      chained.depth = calls.length + max lexer.depth 2 ∧
      ∃ added, List.Forall₂
          (fun call branch => (ofRegexMap call.1 call.2 engine).result = .ok branch) calls added ∧
        chained.branches = lexer.branches ++ added := by
  refine ⟨branches_ne_nil lexer, fun branch member => ?_, length_branches_le lexer, ?_,
    fun branch => depth_le_of_mem_branches, ?_⟩
  · exact ne_orElse_of_branches (branches_of_mem_branches member)
  · obtain ⟨first, others, split⟩ := List.exists_cons_of_ne_nil (branches_ne_nil lexer)
    exact ⟨first, others, _, split, orAll_ok first others, branches_orElseAll_branches split⟩
  · intro engine calls chained some done
    obtain ⟨added, made, rules, rfl⟩ := orRegexAll_ok done
    have present : added ≠ [] := by
      rintro rfl
      exact some (List.forall₂_nil_right_iff.mp made)
    refine ⟨?_, added, made, ?_⟩
    · rw [depth_orElseAll_of_ne_nil lexer present fun rule member => (rules rule member).depth,
        made.length_eq]
    · rw [branches_orElseAll, flatMap_branches fun rule member => (rules rule member).branches]

/-- The expressions `()` and `(a)` behind the lexer that never matches. -/
def twoFallbacks : Lexer Value :=
  .orElse (.orElse .empty
    (.mapped (.pattern (.linear [0x28, 0x29] (.group 1 .empty))) (.function .str)))
    (.mapped (.pattern (.linear [0x28, 0x61, 0x29] (.group 1 (.chars (.single 0x61)))))
      (.function .int))

/-- The lexer that never matches is less deep than those that it falls back to. -/
theorem branches_bounded_by_depth_from_empty :
    (orRegexAll .linear .empty [(.text [0x28, 0x29], .mapper (.function .str)),
      (.text [0x28, 0x61, 0x29], .mapper (.function .int))]).result = .ok twoFallbacks ∧
    twoFallbacks.depth = 4 ∧
    ∃ first second, twoFallbacks.branches = [.empty, first, second] := by
  have built : (orRegexAll .linear .empty [(.text [0x28, 0x29], .mapper (.function .str)),
      (.text [0x28, 0x61, 0x29], .mapper (.function .int))]).result = .ok twoFallbacks := by
    cbv
  obtain ⟨_, _, _, _, _, grows⟩ := branches_bounded_by_depth .empty
  obtain ⟨depth, added, made, branches⟩ := grows _ _ _ (List.cons_ne_nil _ _) built
  obtain ⟨first, second, rfl⟩ := List.length_eq_two.mp made.length_eq.symm
  exact ⟨built, depth, first, second, branches⟩

end Lexer

end TokenLexer
