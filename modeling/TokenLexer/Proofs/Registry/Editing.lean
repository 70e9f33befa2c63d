import TokenLexer.Proofs.Registry.Branching

/-!
# Editing a list of rules

What a loaded lexer makes of a text is decided by its first active rule: the first one whose
lexer alone finds a token in the text or fails on it. So the outcomes of the rules alone tell
which edits are safe. Rules may be added behind the others where there is an outcome already, a
rule may go if it is only active behind another active one, and rules of which at most one is
active may change places.

Main statements: `outcome_eq_firstDecision` and `edits_keep_outcomes`.
-/

namespace TokenLexer

variable {outside : Outside} {engine : Engine} {registry : Registry}

/-! ## Decisions -/

/-- A token or no token, or an error. -/
abbrev Outcome := Except Error (Option Value)

namespace Outcome

variable {outcome : Outcome} {outcomes others rest front back : List Outcome}

/-- The first outcome that is a token or an error, if there is one. -/
def firstDecision : List Outcome → Outcome
  | [] => .ok none
  | .ok none :: rest => firstDecision rest
  | outcome :: _ => outcome

theorem firstDecision_cons_of_ne (active : outcome ≠ .ok none) :
    firstDecision (outcome :: rest) = outcome := by
  rcases outcome with error | none | token
  · rfl
  · exact absurd rfl active
  · rfl

theorem firstDecision_singleton (outcome : Outcome) : firstDecision [outcome] = outcome := by
  rcases outcome with error | none | token <;> rfl

theorem firstDecision_append (outcomes others : List Outcome) :
    firstDecision (outcomes ++ others) = firstDecision (firstDecision outcomes :: others) := by
  induction outcomes with
  | nil => rfl
  | cons head tail ih =>
    by_cases active : head = .ok none
    · subst active
      exact ih
    · rw [List.cons_append, firstDecision_cons_of_ne active, firstDecision_cons_of_ne active,
        firstDecision_cons_of_ne active]

theorem firstDecision_ne_none_iff :
    firstDecision outcomes ≠ .ok none ↔ ∃ outcome ∈ outcomes, outcome ≠ .ok none := by
  induction outcomes with
  | nil => simp [firstDecision]
  | cons head tail ih =>
    by_cases active : head = .ok none
    · subst active
      simpa [firstDecision] using ih
    · rw [firstDecision_cons_of_ne active]
      exact iff_of_true active ⟨head, List.mem_cons_self, active⟩

/-- Outcomes behind a decision do not matter. -/
theorem firstDecision_append_of_ne (decided : firstDecision outcomes ≠ .ok none) :
    firstDecision (outcomes ++ others) = firstDecision outcomes := by
  rw [firstDecision_append, firstDecision_cons_of_ne decided]

/-- An outcome can be left out if it only decides behind another one that does. -/
theorem firstDecision_erase (shadowed : outcome ≠ .ok none → ∃ other ∈ front, other ≠ .ok none) :
    firstDecision (front ++ outcome :: back) = firstDecision (front ++ back) := by
  by_cases active : outcome = .ok none
  · subst active
    rw [firstDecision_append, firstDecision_append front]
    by_cases decided : firstDecision front = .ok none
    · rw [decided]
      rfl
    · rw [firstDecision_cons_of_ne decided, firstDecision_cons_of_ne decided]
  · have decided := firstDecision_ne_none_iff.mpr (shadowed active)
    rw [firstDecision_append_of_ne decided, firstDecision_append_of_ne decided]

/-- Where at most one outcome decides, the order does not matter. -/
theorem firstDecision_perm (same : outcomes.Perm others)
    (unique : outcomes.Pairwise fun a b => ¬(a ≠ .ok none ∧ b ≠ .ok none)) :
    firstDecision outcomes = firstDecision others := by
  induction same with
  | nil => rfl
  | cons head _ ih =>
    by_cases active : head = .ok none
    · subst active
      exact ih unique.of_cons
    · rw [firstDecision_cons_of_ne active, firstDecision_cons_of_ne active]
  | swap a b rest =>
    have apart : ¬(b ≠ .ok none ∧ a ≠ .ok none) :=
      List.rel_of_pairwise_cons unique List.mem_cons_self
    by_cases active : b = .ok none
    · subst active
      by_cases other : a = .ok none
      · rw [other]
      · rw [firstDecision_cons_of_ne other]
        exact firstDecision_cons_of_ne other
    · have none : a = .ok none := by
        by_contra other
        exact apart ⟨active, other⟩
      rw [none, firstDecision_cons_of_ne active]
      exact (firstDecision_cons_of_ne active).symm
  | trans front _ ihFront ihBack =>
    have still := front.pairwise unique fun apart both => apart ⟨both.2, both.1⟩
    rw [ihFront unique, ihBack still]

end Outcome

/-! ## Lexers without a memory -/

/-- What comes of calling the mapper does not depend on what happened before. -/
def Mapper.Stateless (outside : Outside) (mapper : Mapper Value) : Prop :=
  ∀ value past other,
    (mapper.call outside value past).result = (mapper.call outside value other).result

/-- The converters of the registry are stateless, all those that can be called. -/
def Registry.Stateless (outside : Outside) (registry : Registry) : Prop :=
  ∀ entry ∈ registry.converters, ∀ mapper, Value.ofMapper entry.2 = .mapper mapper →
    mapper.Stateless outside

namespace Lexer

open Outcome (firstDecision)

/-- What the lexer makes of an input does not depend on what happened before. -/
def Stateless (outside : Outside) (lexer : Lexer Value) : Prop :=
  ∀ input past other,
    lexer.tryMatch input outside past = lexer.tryMatch input outside other

variable {first second inner : Lexer Value} {mapper : Mapper Value}
  {rules others : List (Lexer Value)}

theorem tryMatch_orElse (first second : Lexer Value) (input : Value) (past : List Event) :
    (orElse first second).tryMatch input outside past =
      firstDecision [first.tryMatch input outside past,
        second.tryMatch input outside (past ++ (first.run outside input past).trace)] := by
  unfold tryMatch
  rw [run, Ongoing.bind_apply, Traced.result_bind]
  rcases (first.run outside input past).result with error | none | token
  · rfl
  · exact (Outcome.firstDecision_singleton _).symm
  · rfl

theorem tryMatch_mapped (inner : Lexer Value) (mapper : Mapper Value) (input : Value)
    (past : List Event) :
    (mapped inner mapper).tryMatch input outside past =
      match inner.tryMatch input outside past with
      | .ok (some token) =>
        (mapper.call outside token (past ++ (inner.run outside input past).trace)).result.map
          Value.token?
      | outcome => outcome := by
  unfold tryMatch
  rw [run, Ongoing.bind_apply, Traced.result_bind]
  rcases (inner.run outside input past).result with error | none | token
  · rfl
  · rfl
  · change ((mapper.call outside token >>= _) _).result =
      (mapper.call outside token _).result.map Value.token?
    rw [Ongoing.bind_apply, Traced.result_bind]
    cases (mapper.call outside token _).result <;> rfl

theorem Stateless.orElse (front : first.Stateless outside) (back : second.Stateless outside) :
    (orElse first second).Stateless outside := by
  intro input past other
  rw [tryMatch_orElse, tryMatch_orElse, front input past other, back input _ other]
  rw [back input (other ++ _) other]

theorem Stateless.mapped (inside : inner.Stateless outside) (calls : mapper.Stateless outside) :
    (mapped inner mapper).Stateless outside := by
  intro input past other
  rw [tryMatch_mapped, tryMatch_mapped, inside input past other]
  split
  · rw [calls _ _ (other ++ (inner.run outside input other).trace)]
  · rfl

theorem stateless_pattern (leaf : Pattern Value) : (pattern leaf).Stateless outside := by
  intro input past other
  cases input <;> rfl

/-- What a chain of lexers without a memory makes of an input is what the first one of them
that decides makes of it. -/
theorem tryMatch_orElseAll (front : first.Stateless outside)
    (each : ∀ lexer ∈ others, lexer.Stateless outside) (input : Value) (past : List Event) :
    (first.orElseAll others).tryMatch input outside past =
      firstDecision ((first :: others).map fun lexer => lexer.tryMatch input outside) := by
  induction others generalizing first with
  | nil => exact (front input past []).trans (Outcome.firstDecision_singleton _).symm
  | cons next others ih =>
    obtain ⟨back, rest⟩ := List.forall_mem_cons.mp each
    have joined : (orElse first next).tryMatch input outside =
        firstDecision [first.tryMatch input outside, next.tryMatch input outside] := by
      rw [tryMatch_orElse, back input _ []]
    calc
      (first.orElseAll (next :: others)).tryMatch input outside past
        = ((orElse first next).orElseAll others).tryMatch input outside past := rfl
      _ = firstDecision ((orElse first next :: others).map (·.tryMatch input outside)) :=
          ih (front.orElse back) rest
      _ = firstDecision ((first :: next :: others).map (·.tryMatch input outside)) := by
          rw [List.map_cons, joined, ← Outcome.firstDecision_append]
          rfl

theorem tryMatch_inOrder (each : ∀ lexer ∈ rules, lexer.Stateless outside) (text : Text)
    (past : List Event) :
    (inOrder rules).tryMatch (.text text) outside past =
      firstDecision (rules.map fun lexer => lexer.tryMatch (.text text) outside) := by
  cases rules with
  | nil => rfl
  | cons first others =>
    obtain ⟨front, back⟩ := List.forall_mem_cons.mp each
    exact tryMatch_orElseAll front back _ _

end Lexer

namespace Registry

variable {rules : List Rule} {rule : Rule} {text : Text}

/-- What the lexer of these rules makes of a text. -/
def outcome (registry : Registry) (engine : Engine) (outside : Outside) (rules : List Rule)
    (text : Text) (past : List Event := []) : Outcome := do
  let lexer ← (registry.load ⟨rules⟩ engine).result
  lexer.tryMatch (.text text) outside past

/-- The lexer of the rule alone finds a token in the text or fails on it. -/
def Active (registry : Registry) (engine : Engine) (outside : Outside) (rule : Rule)
    (text : Text) : Prop :=
  registry.outcome engine outside [rule] text ≠ .ok none

theorem stateless_of_ruleLexer (stateless : registry.Stateless outside) {lexer : Lexer Value}
    (made : RuleLexer registry engine rule lexer) : lexer.Stateless outside := by
  cases made with
  | mk compiled one found same callable =>
    obtain ⟨name, member⟩ := find?_mem found
    exact .mapped (Lexer.stateless_pattern _) (stateless _ member _ same)

/-- The lexer of one rule is the rule's branch. -/
theorem outcome_singleton {branch : Lexer Value}
    (loaded : (registry.loadRule rule engine).result = .ok branch) :
    registry.outcome engine outside [rule] text = branch.tryMatch (.text text) outside := by
  have one : (registry.load ⟨[rule]⟩ engine).result = .ok branch := by
    refine load_ok_iff.mpr ⟨by simp [maxRules], [branch], ?_, rfl⟩
    rw [List.mapM_cons, loaded]
    rfl
  rw [outcome, one, ok_bind]

theorem map_outcome_singleton {branches : List (Lexer Value)}
    (loaded : List.Forall₂
      (fun rule branch => (registry.loadRule rule engine).result = .ok branch) rules branches) :
    (rules.map fun rule => registry.outcome engine outside [rule] text) =
      branches.map fun branch => branch.tryMatch (.text text) outside := by
  induction loaded with
  | nil => rfl
  | cons made _ ih => rw [List.map_cons, List.map_cons, outcome_singleton made, ih]

/-- The first rule that decides alone decides for all of them. -/
theorem outcome_eq_firstDecision (stateless : registry.Stateless outside)
    (accepted : registry.Accepts engine rules) (past : List Event) :
    registry.outcome engine outside rules text past =
      .firstDecision (rules.map fun rule => registry.outcome engine outside [rule] text) := by
  obtain ⟨lexer, loaded⟩ := accepted
  rw [outcome, loaded, ok_bind]
  obtain ⟨-, branches, done, rfl⟩ := load_ok_iff.mp loaded
  have each (branch : Lexer Value) (member : branch ∈ branches) : branch.Stateless outside := by
    obtain ⟨rule, _, made⟩ := mapM_mem done member
    exact stateless_of_ruleLexer stateless (loadRule_ok made)
  rw [Lexer.tryMatch_inOrder each, map_outcome_singleton (mapM_ok_iff_forall₂.mp done)]

/-- Safe edits of a list of rules. What the lexer of a list makes of a text does not depend on
what happened before. Rules that are added at the end change no outcome other than `none`. A
rule that is active only on texts on which an earlier rule is active as well can be left out. And
rules of which no two are active on the same text can be reordered. -/
theorem edits_keep_outcomes (stateless : registry.Stateless outside) (engine : Engine) :
    (∀ rules, registry.Accepts engine rules → ∀ text past,
      registry.outcome engine outside rules text past =
        registry.outcome engine outside rules text) ∧
    (∀ rules more, registry.Accepts engine rules → registry.Accepts engine (rules ++ more) →
      ∀ text, registry.outcome engine outside rules text ≠ .ok none →
        registry.outcome engine outside (rules ++ more) text =
          registry.outcome engine outside rules text) ∧
    (∀ front rule back, registry.Accepts engine (front ++ rule :: back) →
      registry.Accepts engine (front ++ back) →
      (∀ text, registry.Active engine outside rule text →
        ∃ other ∈ front, registry.Active engine outside other text) →
      ∀ text, registry.outcome engine outside (front ++ back) text =
        registry.outcome engine outside (front ++ rule :: back) text) ∧
    (∀ rules others, registry.Accepts engine rules → registry.Accepts engine others →
      rules.Perm others →
      (∀ text, rules.Pairwise fun first second =>
        ¬(registry.Active engine outside first text ∧
          registry.Active engine outside second text)) →
      ∀ text, registry.outcome engine outside others text =
        registry.outcome engine outside rules text) := by
  refine ⟨?_, ?_, ?_, ?_⟩
  · intro rules accepted text past
    rw [outcome_eq_firstDecision stateless accepted, outcome_eq_firstDecision stateless accepted]
  · intro rules more accepted longer text decided
    rw [outcome_eq_firstDecision stateless accepted] at decided ⊢
    rw [outcome_eq_firstDecision stateless longer, List.map_append]
    exact Outcome.firstDecision_append_of_ne decided
  · intro front rule back accepted shorter shadowed text
    rw [outcome_eq_firstDecision stateless accepted, outcome_eq_firstDecision stateless shorter,
      List.map_append, List.map_append, List.map_cons]
    refine (Outcome.firstDecision_erase fun active => ?_).symm
    obtain ⟨other, member, before⟩ := shadowed text active
    exact ⟨_, List.mem_map_of_mem member, before⟩
  · intro rules others accepted reordered same unique text
    rw [outcome_eq_firstDecision stateless accepted, outcome_eq_firstDecision stateless reordered]
    refine (Outcome.firstDecision_perm (same.map _) ?_).symm
    exact List.pairwise_map.mpr (unique text)

/-- An engine whose expressions match themselves and nothing else. -/
def verbatim : Engine where
  compile regex := .ok (.table 0
    { source := .text regex
      groups := .int 1
      lacking := []
      answers := fun text => if text = regex then some (.group (.text text)) else none })
  compiled := by
    rintro regex leaf ⟨⟩
    refine ⟨rfl, ?_, rfl, 1, rfl⟩
    rw [Pattern.isWritable, Value.isWritable_digit (by decide)]
    rfl
  refused := nofun

/-- The rule for one character. -/
def ruleOf (c : CodePoint) : Rule :=
  ⟨.text [c], .text [0x73]⟩

theorem loadRule_ruleOf (c : CodePoint) : ∃ leaf, verbatim.compile [c] = .ok leaf ∧
    (oneConverter.loadRule (ruleOf c) verbatim).result =
      .ok (.mapped (.pattern leaf) (.function .str)) := by
  refine ⟨_, rfl, ?_⟩
  cbv

theorem accepts_rulesOf {chars : List CodePoint} (few : chars.length ≤ maxRules) :
    oneConverter.Accepts verbatim (chars.map ruleOf) := by
  have each (rule : Rule) (member : rule ∈ chars.map ruleOf) :
      ∃ branch, (oneConverter.loadRule rule verbatim).result = .ok branch := by
    obtain ⟨c, _, rfl⟩ := List.mem_map.mp member
    obtain ⟨leaf, _, loaded⟩ := loadRule_ruleOf c
    exact ⟨_, loaded⟩
  obtain ⟨branches, done⟩ := mapM_ok_iff.mpr each
  exact ⟨_, load_ok_iff.mpr ⟨by rwa [List.length_map], branches, done, rfl⟩⟩

theorem active_ruleOf {c : CodePoint} {text : Text}
    (active : oneConverter.Active verbatim .nothing (ruleOf c) text) : text = [c] := by
  by_contra other
  obtain ⟨leaf, compiled, loaded⟩ := loadRule_ruleOf c
  have none : (Lexer.pattern leaf).tryMatch (.text text) = .ok none := by
    cases compiled
    show Pattern.token? _ text = _
    simp only [Pattern.token?, Pattern.fullMatch, if_neg other]
  refine active ?_
  rw [outcome_singleton loaded, Lexer.tryMatch_mapped, none]

/-- A rule is added, one that is there twice is left out, and two change places. The text finds
itself as the token each time. -/
theorem edits_keep_verbatim_outcomes :
    (oneConverter.outcome verbatim .nothing [ruleOf 0x61] [0x61] = .ok (some (.text [0x61])) ∧
      oneConverter.outcome verbatim .nothing ([ruleOf 0x61] ++ [ruleOf 0x62]) [0x61] =
        oneConverter.outcome verbatim .nothing [ruleOf 0x61] [0x61]) ∧
    (oneConverter.outcome verbatim .nothing ([ruleOf 0x61] ++ ruleOf 0x61 :: [ruleOf 0x62])
        [0x62] = .ok (some (.text [0x62])) ∧
      oneConverter.outcome verbatim .nothing ([ruleOf 0x61] ++ [ruleOf 0x62]) [0x62] =
        oneConverter.outcome verbatim .nothing ([ruleOf 0x61] ++ ruleOf 0x61 :: [ruleOf 0x62])
          [0x62]) ∧
    (oneConverter.outcome verbatim .nothing [ruleOf 0x61, ruleOf 0x62] [0x61] =
        .ok (some (.text [0x61])) ∧
      oneConverter.outcome verbatim .nothing [ruleOf 0x62, ruleOf 0x61] [0x61] =
        oneConverter.outcome verbatim .nothing [ruleOf 0x61, ruleOf 0x62] [0x61]) := by
  have stateless : oneConverter.Stateless .nothing := by
    intro entry member mapper same
    obtain rfl := List.mem_singleton.mp member
    cases same
    exact fun _ _ _ => rfl
  have accepts (chars : List CodePoint) (few : chars.length ≤ 3) :
      oneConverter.Accepts verbatim (chars.map ruleOf) :=
    accepts_rulesOf (Nat.le_trans few (by decide))
  obtain ⟨_, added, left, moved⟩ := edits_keep_outcomes stateless verbatim
  refine ⟨⟨by cbv, ?_⟩, ⟨by cbv, ?_⟩, ⟨by cbv, ?_⟩⟩
  · refine added _ _ (accepts [0x61] (by decide)) (accepts [0x61, 0x62] (by decide)) _ ?_
    have found : oneConverter.outcome verbatim .nothing [ruleOf 0x61] [0x61] =
        .ok (some (.text [0x61])) := by
      cbv
    intro none
    cases found.symm.trans none
  · refine left _ _ _ (accepts [0x61, 0x61, 0x62] (by decide)) (accepts [0x61, 0x62] (by decide))
      (fun text active => ?_) _
    exact ⟨_, List.mem_singleton_self _, active⟩
  · refine moved _ _ (accepts [0x61, 0x62] (by decide)) (accepts [0x62, 0x61] (by decide))
      (.swap _ _ _) (fun text => ?_) _
    refine List.pairwise_pair.mpr fun both => ?_
    have first := active_ruleOf both.1
    have second := active_ruleOf both.2
    rw [first] at second
    cases second

end Registry

end TokenLexer
