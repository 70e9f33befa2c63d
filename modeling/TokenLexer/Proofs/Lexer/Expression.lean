import TokenLexer.Lexer.Building
import TokenLexer.Proofs.Traversal

/-!
# Lexers of expressions

What comes of an expression, whatever the engine: it becomes a leaf when it compiles
and has one group. Otherwise it is at fault, unless the engine fails for a reason of
its own, which is passed on.

Main statements: `ofRegex_ok_iff` and `ofRegex_error_iff`.
-/

namespace TokenLexer

variable {engine : Engine} {regex : Text} {error : Error}

/-- The engine fails for another reason than the syntax of the expression. -/
def Engine.FailsOn (engine : Engine) (regex : Text) (error : Error) : Prop :=
  engine.compile regex = .error error ∧ ∀ fault, error ≠ .syntaxError fault

theorem Engine.FailsOn.not_isLexerError (failed : engine.FailsOn regex error) :
    error.kind.isLexerError = false :=
  engine.refused failed.1

/-- The engine encodes an expression strictly before it compiles it, and whatever it
then complains about is the syntax. -/
structure Engine.Strict (engine : Engine) : Prop where
  refuses : ∀ {regex : Text}, regex.isWellFormed = false →
    engine.compile regex = .error (.unencodable regex)
  reports : ∀ {regex : Text} {error : Error}, regex.isWellFormed = true →
    engine.compile regex = .error error → ∃ fault, error = .syntaxError fault

theorem Engine.linear_strict : Engine.linear.Strict where
  refuses {regex} lone := by
    show Pattern.compile regex = _
    rw [Pattern.compile, Pattern.treeOf_lone lone]
    rfl
  reports encodable failed := by
    rcases Pattern.compile_error failed with ⟨_, syntactic⟩ | ⟨lone, _⟩
    · exact syntactic
    · rw [encodable] at lone
      cases lone

/-- Such an engine fails for no other reason than that it cannot encode the text. -/
theorem Engine.Strict.failsOn_iff (strict : engine.Strict) :
    engine.FailsOn regex error ↔ regex.isWellFormed = false ∧ error = .unencodable regex := by
  constructor
  · rintro ⟨failed, other⟩
    cases encodable : regex.isWellFormed with
    | true =>
      obtain ⟨fault, same⟩ := strict.reports encodable failed
      exact absurd same (other fault)
    | false =>
      rw [strict.refuses encodable] at failed
      exact ⟨rfl, (Except.error.inj failed).symm⟩
  · rintro ⟨lone, rfl⟩
    exact ⟨strict.refuses lone, nofun⟩

/-- What is wrong with an expression. -/
inductive ExpressionFault (engine : Engine) (regex : Text) : Error → Prop
  | rejected {fault : Regex.SyntaxError}
      (refused : engine.compile regex = .error (.syntaxError fault)) :
      ExpressionFault engine regex (.badRegex regex fault)
  | wrongGroupCount {leaf : Pattern Value} {groups : Nat}
      (compiled : engine.compile regex = .ok leaf) (counted : leaf.groups = .int groups)
      (other : groups ≠ 1) :
      ExpressionFault engine regex (.wrongGroupCount regex (.int groups))

theorem ExpressionFault.kind (fault : ExpressionFault engine regex error) :
    error.kind = .invalidRegex ∨ error.kind = .invalidPattern := by
  cases fault with
  | rejected => exact Or.inl rfl
  | wrongGroupCount => exact Or.inr rfl

theorem ExpressionFault.isLexerError (fault : ExpressionFault engine regex error) :
    error.kind.isLexerError = true := by
  rcases fault.kind with kind | kind
  · rw [kind]
    rfl
  · rw [kind]
    rfl

namespace Lexer

/-! ## Leaves -/

/-- A compiled expression becomes a leaf when it has one group. -/
theorem ofPattern_compiled {leaf : Pattern Value} {groups : Nat}
    (compiled : engine.compile regex = .ok leaf) (counted : leaf.groups = .int groups) :
    ofPattern (.pattern leaf) =
      if groups = 1 then .ok (.pattern leaf)
      else .error (.wrongGroupCount regex (.int groups)) := by
  obtain ⟨complete, writable, shown, _⟩ := engine.compiled compiled
  have one : (Value.int groups).sameKey (.int 1) = decide (groups = 1) := by
    rw [Value.sameKey_int, Bool.eq_iff_iff, beq_iff_eq, decide_eq_true_iff]
    exact Int.ofNat_inj
  simp only [ofPattern, complete, writable, shown, counted, one, decide_eq_true_iff]
  rfl

theorem ofRegex_compiled {leaf : Pattern Value} (compiled : engine.compile regex = .ok leaf) :
    (ofRegex (.text regex) engine).result = ofPattern (.pattern leaf) := by
  simp only [ofRegex, compiled, Traced.result_bind, Traced.result_ofExcept, Traced.result_note]
  rfl

theorem ofRegex_rejected {fault : Regex.SyntaxError}
    (refused : engine.compile regex = .error (.syntaxError fault)) :
    (ofRegex (.text regex) engine).result = .error (.badRegex regex fault) := by
  simp only [ofRegex, refused, Traced.result_fail]

theorem ofRegex_failed (failed : engine.FailsOn regex error) :
    (ofRegex (.text regex) engine).result = .error error := by
  obtain ⟨failed, other⟩ := failed
  simp only [ofRegex, failed, Traced.result_fail]

theorem ofRegex_fault (fault : ExpressionFault engine regex error) :
    (ofRegex (.text regex) engine).result = .error error := by
  cases fault with
  | rejected refused => exact ofRegex_rejected refused
  | wrongGroupCount compiled counted other =>
    rw [ofRegex_compiled compiled, ofPattern_compiled compiled counted, if_neg other]

theorem ofRegex_one {leaf : Pattern Value} (compiled : engine.compile regex = .ok leaf)
    (counted : leaf.groups = .int 1) :
    (ofRegex (.text regex) engine).result = .ok (.pattern leaf) := by
  rw [ofRegex_compiled compiled, @ofPattern_compiled _ _ _ 1 compiled counted, if_pos rfl]

/-- An expression becomes a leaf, or is at fault, or the engine fails on it. -/
theorem ofRegex_cases (engine : Engine) (regex : Text) :
    (∃ leaf, engine.compile regex = .ok leaf ∧ leaf.groups = .int 1) ∨
      ∃ error, ExpressionFault engine regex error ∨ engine.FailsOn regex error := by
  cases compiled : engine.compile regex with
  | ok leaf =>
    obtain ⟨_, _, _, groups, counted⟩ := engine.compiled compiled
    by_cases one : groups = 1
    · subst one
      exact Or.inl ⟨leaf, rfl, counted⟩
    · exact Or.inr ⟨_, Or.inl (.wrongGroupCount compiled counted one)⟩
  | error error =>
    by_cases syntactic : ∃ fault, error = .syntaxError fault
    · obtain ⟨fault, rfl⟩ := syntactic
      exact Or.inr ⟨_, Or.inl (.rejected compiled)⟩
    · exact Or.inr ⟨error, Or.inr ⟨compiled, fun fault same => syntactic ⟨fault, same⟩⟩⟩

theorem ofRegex_error_iff : (ofRegex (.text regex) engine).result = .error error ↔
    ExpressionFault engine regex error ∨ engine.FailsOn regex error := by
  constructor
  · intro found
    rcases ofRegex_cases engine regex with ⟨leaf, compiled, counted⟩ | ⟨other, fault | failed⟩
    · rw [ofRegex_one compiled counted] at found
      cases found
    · obtain rfl := Except.error.inj ((ofRegex_fault fault).symm.trans found)
      exact Or.inl fault
    · obtain rfl := Except.error.inj ((ofRegex_failed failed).symm.trans found)
      exact Or.inr failed
  · rintro (fault | failed)
    · exact ofRegex_fault fault
    · exact ofRegex_failed failed

theorem ofRegex_ok_iff {lexer : Lexer Value} : (ofRegex (.text regex) engine).result = .ok lexer ↔
    ∃ leaf, engine.compile regex = .ok leaf ∧ leaf.groups = .int 1 ∧ lexer = .pattern leaf := by
  constructor
  · intro made
    rcases ofRegex_cases engine regex with ⟨leaf, compiled, counted⟩ | ⟨error, found⟩
    · rw [ofRegex_one compiled counted] at made
      cases made
      exact ⟨leaf, compiled, counted, rfl⟩
    · rw [ofRegex_error_iff.mpr found] at made
      cases made
  · rintro ⟨leaf, compiled, counted, rfl⟩
    exact ofRegex_one compiled counted

/-- Only texts are compiled. -/
theorem ofRegex_ok {expression : Value} {lexer : Lexer Value}
    (made : (ofRegex expression engine).result = .ok lexer) :
    ∃ regex leaf, expression = .text regex ∧ engine.compile regex = .ok leaf ∧
      leaf.groups = .int 1 ∧ lexer = .pattern leaf := by
  cases expression with
  | text regex =>
    obtain ⟨leaf, compiled, counted, same⟩ := ofRegex_ok_iff.mp made
    exact ⟨regex, leaf, rfl, compiled, counted, same⟩
  | _ => cases made

/-! ## Leaves with a mapper -/

variable {mapper : Value}

/-- Only what can be called becomes a mapper. -/
theorem map_ok {lexer next : Lexer Value} (made : lexer.map mapper = .ok next) :
    ∃ function, mapper = .mapper function ∧ mapper.isCallable = true ∧
      next = .mapped lexer function := by
  unfold map at made
  split at made
  · next callable =>
    cases mapper with
    | mapper function => exact ⟨function, rfl, callable, (Except.ok.inj made).symm⟩
    | _ => cases callable
  · cases made

theorem ofRegexMap_ok {expression : Value} {lexer : Lexer Value}
    (made : (ofRegexMap expression mapper engine).result = .ok lexer) :
    ∃ regex leaf function, expression = .text regex ∧ engine.compile regex = .ok leaf ∧
      leaf.groups = .int 1 ∧ mapper = .mapper function ∧ mapper.isCallable = true ∧
      lexer = .mapped (.pattern leaf) function := by
  unfold ofRegexMap at made
  rw [Traced.result_bind] at made
  obtain ⟨_, read, made⟩ := bind_ok_iff.mp made
  obtain ⟨regex, leaf, rfl, compiled, counted, rfl⟩ := ofRegex_ok read
  obtain ⟨function, rfl, callable, rfl⟩ := map_ok made
  exact ⟨regex, leaf, function, rfl, compiled, counted, rfl, callable, rfl⟩

theorem ofRegexMap_result (callable : mapper.isCallable = true) :
    (ofRegexMap (.text regex) mapper engine).result =
      (ofRegex (.text regex) engine).result.map (.mapped · mapper.toMapper) := by
  unfold ofRegexMap
  rw [Traced.result_bind]
  cases (ofRegex (.text regex) engine).result with
  | error error => rfl
  | ok leaf => simp [Except.map, map, callable]

theorem ofRegexMap_error_iff (callable : mapper.isCallable = true) :
    (ofRegexMap (.text regex) mapper engine).result = .error error ↔
      ExpressionFault engine regex error ∨ engine.FailsOn regex error := by
  rw [ofRegexMap_result callable, map_error_iff, ofRegex_error_iff]

theorem ofRegexMap_ok_iff {lexer : Lexer Value} (callable : mapper.isCallable = true) :
    (ofRegexMap (.text regex) mapper engine).result = .ok lexer ↔
      ∃ leaf, engine.compile regex = .ok leaf ∧ leaf.groups = .int 1 ∧
        lexer = .mapped (.pattern leaf) mapper.toMapper := by
  rw [ofRegexMap_result callable, map_ok_iff]
  simp only [ofRegex_ok_iff]
  constructor
  · rintro ⟨_, ⟨leaf, compiled, counted, rfl⟩, rfl⟩
    exact ⟨leaf, compiled, counted, rfl⟩
  · rintro ⟨leaf, compiled, counted, rfl⟩
    exact ⟨_, ⟨leaf, compiled, counted, rfl⟩, rfl⟩

end Lexer

end TokenLexer
