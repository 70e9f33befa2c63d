import TokenLexer.Proofs.Lexer.Visits
import TokenLexer.Proofs.Registry.Branching

/-!
# Matching does not fail by itself

The checks that are made while a lexer is built keep every tree sound: its patterns are
patterns of texts with one group, its mappers can be called, and its parts are lexers. A match
of a text, whatever the text, then ends in a value, unless a mapper of the tree was called with
a token of its own lexer and raised an error.

Main statements: `Built.sound`, `Sound.endsWell` and `fails_only_through_mappers`.
-/

namespace TokenLexer

/-- The pattern behaves like a compiled one. It has a number of groups, and if it is one of
texts and has a group 1 to ask for, matching fails in no other way than that a text cannot be
encoded. -/
structure Pattern.Reliable (leaf : Pattern Value) : Prop where
  counted : ∃ groups : Nat, leaf.groups = .int groups
  matching : (∀ bytes, leaf.source ≠ .bytes bytes) → leaf.groups = .int 1 →
    ∀ text error, leaf.fullMatch text ≠ .failed error

/-- The patterns of both dialects behave so. -/
theorem Pattern.reliable_of_compiled {leaf : Pattern Value}
    (compiled : ∀ serial table, leaf ≠ .table serial table) : leaf.Reliable := by
  cases leaf with
  | linear source tree =>
    refine ⟨⟨_, rfl⟩, fun _ _ text error failed => ?_⟩
    simp only [fullMatch] at failed
    split at failed
    · split at failed <;> cases failed
    · cases failed
  | backtracking source flags tree =>
    refine ⟨⟨_, rfl⟩, fun _ _ text error failed => ?_⟩
    simp only [fullMatch] at failed
    split at failed <;> cases failed
  | ofBytes dialect flags source groups =>
    exact ⟨⟨groups, rfl⟩, fun textual => absurd rfl (textual source)⟩
  | table serial table => exact absurd rfl (compiled serial table)

/-- Whatever the engine compiles behaves like a compiled pattern. -/
def Engine.Reliable (engine : Engine) : Prop :=
  ∀ {regex : Text} {leaf : Pattern Value}, engine.compile regex = .ok leaf → leaf.Reliable

theorem Engine.linear_reliable : Engine.linear.Reliable := by
  intro regex leaf compiled
  obtain ⟨tree, _, rfl⟩ := Pattern.compile_ok compiled
  exact Pattern.reliable_of_compiled nofun

namespace Lexer

variable {outside : Outside} {engine : Engine} {lexer next first second : Lexer Value}
  {text : Text} {past : List Event} {error : Error}

/-! ## Lexers that can be built -/

/-- The lexer was built by calls that succeeded. Making a transformation or a choice directly
checks what `map` and `or` check. -/
inductive Built (engine : Engine) : Lexer Value → Prop
  | empty : Built engine .empty
  | ofRegex {lexer : Lexer Value} {regex : Value}
      (made : (ofRegex regex engine).result = .ok lexer) : Built engine lexer
  | ofPattern {lexer : Lexer Value} {leaf : Pattern Value} (reliable : leaf.Reliable)
      (made : ofPattern (.pattern leaf) = .ok lexer) : Built engine lexer
  | map {lexer next : Lexer Value} {mapper : Value} (built : Built engine lexer)
      (made : lexer.map mapper = .ok next) : Built engine next
  | or {first second next : Lexer Value} (built : Built engine first)
      (other : Built engine second) (made : first.or (.lexer second) = .ok next) :
      Built engine next
  | orRegex {lexer next : Lexer Value} {regex mapper : Value} (built : Built engine lexer)
      (made : (lexer.orRegex regex mapper engine).result = .ok next) : Built engine next
  | load {lexer : Lexer Value} {registry : Registry} {config : Config}
      (made : (registry.load config engine).result = .ok lexer) : Built engine lexer
  | recording {lexer : Lexer Value} (probe : Nat) (built : Built engine lexer) :
      Built engine (.recording probe lexer)

/-- Every pattern in the tree is one of texts and has one group, every mapper can be called,
and every part is a lexer of these kinds. -/
inductive Sound : Lexer Value → Prop
  | empty : Sound .empty
  | pattern {leaf : Pattern Value} (reliable : leaf.Reliable)
      (textual : ∀ bytes, leaf.source ≠ .bytes bytes) (one : leaf.groups = .int 1) :
      Sound (.pattern leaf)
  | mapped {inner : Lexer Value} {mapper : Mapper Value} (inside : Sound inner)
      (callable : (Value.mapper mapper).isCallable = true) : Sound (.mapped inner mapper)
  | orElse {first second : Lexer Value} (front : Sound first) (back : Sound second) :
      Sound (.orElse first second)
  | recording {inner : Lexer Value} (probe : Nat) (inside : Sound inner) :
      Sound (.recording probe inner)

theorem ofPattern_sound {leaf : Pattern Value} (reliable : leaf.Reliable)
    (made : ofPattern (.pattern leaf) = .ok lexer) : lexer.Sound := by
  unfold ofPattern at made
  dsimp only at made
  split at made
  · cases made
  · split at made
    · cases made
    · next textual =>
      split at made
      · next one =>
        cases made
        obtain ⟨groups, counted⟩ := reliable.counted
        rw [counted, Value.sameKey_int, beq_iff_eq] at one
        exact .pattern reliable textual (counted.trans (congrArg Value.int one))
      · split at made <;> cases made

/-- A compiled expression with one group is a sound leaf. -/
theorem sound_of_compiled (reliable : engine.Reliable) {regex : Text} {leaf : Pattern Value}
    (compiled : engine.compile regex = .ok leaf) (one : leaf.groups = .int 1) :
    (pattern leaf).Sound := by
  obtain ⟨_, _, shown, _⟩ := engine.compiled compiled
  refine .pattern (reliable compiled) (fun bytes same => ?_) one
  cases shown.symm.trans same

theorem ofRegex_sound (reliable : engine.Reliable) {regex : Value}
    (made : (ofRegex regex engine).result = .ok lexer) : lexer.Sound := by
  obtain ⟨text, leaf, _, compiled, one, rfl⟩ := ofRegex_ok made
  exact sound_of_compiled reliable compiled one

theorem Sound.map {mapper : Value} (sound : lexer.Sound) (made : lexer.map mapper = .ok next) :
    next.Sound := by
  obtain ⟨function, rfl, callable, rfl⟩ := map_ok made
  exact .mapped sound callable

theorem ofRegexMap_sound (reliable : engine.Reliable) {regex mapper : Value}
    (made : (ofRegexMap regex mapper engine).result = .ok lexer) : lexer.Sound := by
  obtain ⟨text, leaf, function, _, compiled, one, rfl, callable, rfl⟩ := ofRegexMap_ok made
  exact .mapped (sound_of_compiled reliable compiled one) callable

theorem Sound.orRegex (reliable : engine.Reliable) {regex mapper : Value} (sound : lexer.Sound)
    (made : (lexer.orRegex regex mapper engine).result = .ok next) : next.Sound := by
  unfold Lexer.orRegex at made
  rw [Traced.result_bind] at made
  obtain ⟨branch, read, made⟩ := bind_ok_iff.mp made
  cases made
  exact .orElse sound (ofRegexMap_sound reliable read)

theorem load_sound (reliable : engine.Reliable) {registry : Registry} {config : Config}
    (made : (registry.load config engine).result = .ok lexer) : lexer.Sound := by
  refine Registry.load_induction .empty .orElse (fun rule => ?_) made
  cases rule with
  | mk compiled one found same callable =>
    exact .mapped (sound_of_compiled reliable compiled one) callable

/-- Every way of building keeps the trees sound. -/
theorem Built.sound (reliable : engine.Reliable) (built : Built engine lexer) : lexer.Sound := by
  induction built with
  | empty => exact .empty
  | ofRegex made => exact ofRegex_sound reliable made
  | ofPattern compiled made => exact ofPattern_sound compiled made
  | map _ made ih => exact ih.map made
  | or _ _ made ih other =>
    cases made
    exact .orElse ih other
  | orRegex _ made ih => exact ih.orRegex reliable made
  | load made => exact load_sound reliable made
  | recording probe _ ih => exact .recording probe ih

/-! ## Where errors come from -/

/-- In a match of the text, a mapper of the tree was called with a token of its own lexer, and
raised the error. -/
def RaisedByMapper (outside : Outside) (lexer : Lexer Value) (text : Text) (past : List Event)
    (error : Error) : Prop :=
  ∃ (place : List Part) (inner : Lexer Value) (mapper : Mapper Value) (before : List Event)
    (token : Value),
    ⟨place, .lexer (.mapped inner mapper), .text text, before⟩ ∈
      lexer.visits outside (.text text) past ∧
    (inner.answer outside (.text text) before).result = .ok token ∧ token ≠ .none ∧
    (mapper.call outside token
      (before ++ (inner.answer outside (.text text) before).trace)).result = .error error

/-- The error of a part that the match calls is one of the whole. -/
theorem RaisedByMapper.of_part {whole : Lexer Value} {before : List Event}
    (raised : lexer.RaisedByMapper outside text before error) (part : Part)
    (below : ∀ visit ∈ lexer.visits outside (.text text) before,
      visit.under part ∈ whole.visits outside (.text text) past) :
    whole.RaisedByMapper outside text past error := by
  obtain ⟨place, inner, mapper, earlier, token, member, found⟩ := raised
  exact ⟨part :: place, inner, mapper, earlier, token, below _ member, found⟩

/-- The calls that are made below a part are found below its place. -/
theorem mem_under {part : Part} {visit : Visit} {visits rest : List Visit} {root : Visit}
    (member : visit ∈ visits) :
    visit.under part ∈ root :: (visits.map (·.under part) ++ rest) :=
  List.mem_cons_of_mem _ (List.mem_append_left _ (List.mem_map_of_mem member))

/-- A match of a text ends in a token or in none, or a mapper of the tree raised the error. -/
def EndsWell (outside : Outside) (lexer : Lexer Value) (text : Text) (past : List Event) : Prop :=
  (∃ token, (lexer.run outside (.text text) past).result = .ok token) ∨
    ∃ error, (lexer.run outside (.text text) past).result = .error error ∧
      lexer.RaisedByMapper outside text past error

theorem ends_pattern {leaf : Pattern Value} (reliable : leaf.Reliable)
    (textual : ∀ bytes, leaf.source ≠ .bytes bytes) (one : leaf.groups = .int 1) :
    (pattern leaf).EndsWell outside text past := by
  refine Or.inl ?_
  have matching := reliable.matching textual one text
  change ∃ token, leaf.token? text = .ok token
  unfold Pattern.token?
  split
  · exact ⟨_, rfl⟩
  · exact ⟨_, rfl⟩
  · exact ⟨_, rfl⟩
  · next error failed => exact absurd failed (matching error)

theorem ends_mapped {inner : Lexer Value} {mapper : Mapper Value}
    (inside : inner.EndsWell outside text past) :
    (mapped inner mapper).EndsWell outside text past := by
  unfold EndsWell
  rw [run, Ongoing.bind_apply, Traced.result_bind]
  rcases inside with ⟨_ | token, done⟩ | ⟨error, failed, raised⟩
  · rw [done]
    exact Or.inl ⟨none, rfl⟩
  · obtain ⟨answered, present⟩ := answer_some_iff.mpr done
    rw [done, ok_bind]
    dsimp only
    rw [Ongoing.bind_apply, Traced.result_bind]
    cases called : (mapper.call outside token
      (past ++ (inner.run outside (.text text) past).trace)).result with
    | ok value => exact Or.inl ⟨value.token?, rfl⟩
    | error error =>
      rw [← answer_trace] at called
      exact Or.inr ⟨error, rfl, [], inner, mapper, past, token, root_mem_visits, answered,
        present, called⟩
  · rw [failed]
    exact Or.inr ⟨error, rfl, raised.of_part .inner fun _ => mem_under⟩

theorem ends_orElse (front : first.EndsWell outside text past)
    (back : ∀ past, second.EndsWell outside text past) :
    (orElse first second).EndsWell outside text past := by
  unfold EndsWell
  rw [run, Ongoing.bind_apply, Traced.result_bind]
  rcases front with ⟨_ | token, done⟩ | ⟨error, failed, raised⟩
  · rw [done, ok_bind]
    dsimp only
    rcases back (past ++ (first.run outside (.text text) past).trace) with
      found | ⟨error, failed, raised⟩
    · exact Or.inl found
    · refine Or.inr ⟨error, failed, raised.of_part .second fun visit member => ?_⟩
      -- The calls of the second part are listed as the first one found no token.
      rw [visits, done]
      exact List.mem_cons_of_mem _ (List.mem_append_right _ (List.mem_map_of_mem member))
  · rw [done]
    exact Or.inl ⟨some token, rfl⟩
  · rw [failed]
    exact Or.inr ⟨error, rfl, raised.of_part .first fun _ => mem_under⟩

theorem ends_recording {inner : Lexer Value} (probe : Nat)
    (inside : ∀ past, inner.EndsWell outside text past) :
    (recording probe inner).EndsWell outside text past := by
  unfold EndsWell
  rw [run, Ongoing.bind_apply, Traced.result_bind]
  change (∃ token, (inner.run outside (.text text) _).result = .ok token) ∨
    ∃ error, (inner.run outside (.text text) _).result = .error error ∧ _
  rcases inside (past ++ [.recorded probe (.text text)]) with found | ⟨error, failed, raised⟩
  · exact Or.inl found
  · refine Or.inr ⟨error, failed, raised.of_part .inner fun visit member => ?_⟩
    exact List.mem_cons_of_mem _ (List.mem_map_of_mem member)

theorem Sound.endsWell (sound : lexer.Sound) (outside : Outside) (text : Text)
    (past : List Event) : lexer.EndsWell outside text past := by
  induction sound generalizing past with
  | empty => exact Or.inl ⟨none, rfl⟩
  | pattern reliable textual one => exact ends_pattern reliable textual one
  | mapped _ _ ih => exact ends_mapped (ih past)
  | orElse _ _ front back => exact ends_orElse (front past) back
  | recording probe _ ih => exact ends_recording probe ih

/-- The tree of a lexer that was built is sound, and a match of any text returns a value,
`none` included, or raises an error that one of the mappers raised when it was given a token
of its own lexer. -/
theorem fails_only_through_mappers (reliable : engine.Reliable) (built : Built engine lexer) :
    lexer.Sound ∧ ∀ outside text past,
      (∃ value, (lexer.answer outside (.text text) past).result = .ok value) ∨
        ∃ error, (lexer.answer outside (.text text) past).result = .error error ∧
          lexer.RaisedByMapper outside text past error := by
  have sound := built.sound reliable
  refine ⟨sound, fun outside text past => ?_⟩
  rw [answer_result]
  rcases sound.endsWell outside text past with ⟨token, done⟩ | ⟨error, failed, raised⟩
  · exact Or.inl ⟨token.getD .none, by rw [done]; rfl⟩
  · exact Or.inr ⟨error, by rw [failed]; rfl, raised⟩

/-- The lexer of `(a)` with a mapper that raises an error for every token. -/
def raisingOnA : Lexer Value :=
  .mapped (.pattern (.linear [0x28, 0x61, 0x29] (.group 1 (.chars (.single 0x61)))))
    (.function .raise)

theorem fails_only_through_raise :
    raisingOnA.Sound ∧ (raisingOnA.answer .nothing (.text [0xd800]) []).result = .ok .none ∧
      (raisingOnA.answer .nothing (.text [0x61]) []).result = .error (.refused "boom") ∧
      raisingOnA.RaisedByMapper .nothing [0x61] [] (.refused "boom") := by
  have made : (ofRegex (.text [0x28, 0x61, 0x29])).result =
      .ok (.pattern (.linear [0x28, 0x61, 0x29] (.group 1 (.chars (.single 0x61))))) := by
    cbv
  have mapped : (pattern (.linear [0x28, 0x61, 0x29] (.group 1 (.chars (.single 0x61))))).map
      (.mapper (.function .raise)) = .ok raisingOnA := rfl
  have built : Built .linear raisingOnA := .map (.ofRegex made) mapped
  have failed : (raisingOnA.answer .nothing (.text [0x61]) []).result =
      .error (.refused "boom") := by
    cbv
  obtain ⟨sound, ends⟩ := fails_only_through_mappers Engine.linear_reliable built
  refine ⟨sound, by cbv, failed, ?_⟩
  rcases ends .nothing [0x61] [] with ⟨value, done⟩ | ⟨error, other, raised⟩
  · cases failed.symm.trans done
  · obtain rfl := Except.error.inj (failed.symm.trans other)
    exact raised

end Lexer

end TokenLexer
