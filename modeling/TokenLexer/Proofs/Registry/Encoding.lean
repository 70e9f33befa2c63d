import TokenLexer.Proofs.Registry.Loading

/-!
# Which errors come out

Turning texts into lexers promises a few kinds of error. The promise is kept for every
text that can be encoded, and broken for every other one: a lone surrogate in an
expression makes the engine fail before it compiles anything, and this failure is
passed on as it is.

Main statements: `errors_promised_unless_lone_surrogate`, and `lone_surrogate_breaks_promise`.
-/

namespace TokenLexer

variable {engine : Engine} {registry : Registry} {regex : Text} {error : Error}
  {rules : List (Text × Text)}

/-- The kinds of error that making a lexer of an expression promises. -/
def Lexer.promised : List ErrorKind :=
  [.invalidRegex, .invalidPattern]

/-- The kinds of error that loading a configuration promises. -/
def Registry.promised : List ErrorKind :=
  [.tooManyRules, .patternTooLong, .unknownConverter, .invalidConfig]

theorem Error.not_promised_unencodable (regex : Text) :
    (Error.unencodable regex).kind ∉ Lexer.promised ∧
      (Error.unencodable regex).kind ∉ Registry.promised := by
  constructor
  · show ErrorKind.encoding ∉ Lexer.promised
    decide
  · show ErrorKind.encoding ∉ Registry.promised
    decide

namespace Lexer

/-- What making a lexer of an expression keeps to: it makes a leaf, or fails in a
promised way. -/
def KeepsPromise (engine : Engine) (regex : Text) : Prop :=
  (∃ leaf, (ofRegex (.text regex) engine).result = .ok (.pattern leaf)) ∨
    ∃ error, (ofRegex (.text regex) engine).result = .error error ∧ error.kind ∈ promised

theorem ofRegex_lone (strict : engine.Strict) (lone : regex.isWellFormed = false) :
    (ofRegex (.text regex) engine).result = .error (.unencodable regex) :=
  ofRegex_failed (strict.failsOn_iff.mpr ⟨lone, rfl⟩)

theorem keepsPromise_iff (strict : engine.Strict) :
    KeepsPromise engine regex ↔ regex.isWellFormed = true := by
  constructor
  · intro kept
    cases encodable : regex.isWellFormed with
    | true => rfl
    | false =>
      rcases kept with ⟨leaf, made⟩ | ⟨error, failed, kind⟩
      · rw [ofRegex_lone strict encodable] at made
        cases made
      · rw [ofRegex_lone strict encodable] at failed
        cases failed
        exact absurd kind (Error.not_promised_unencodable regex).1
  · intro encodable
    rcases ofRegex_cases engine regex with ⟨leaf, compiled, counted⟩ | ⟨error, fault | fails⟩
    · exact Or.inl ⟨leaf, ofRegex_one compiled counted⟩
    · refine Or.inr ⟨error, ofRegex_fault fault, ?_⟩
      rcases fault.kind with kind | kind
      · simp [kind, promised]
      · simp [kind, promised]
    · obtain ⟨lone, _⟩ := strict.failsOn_iff.mp fails
      rw [encodable] at lone
      cases lone

end Lexer

namespace Registry

/-- What loading a configuration keeps to. -/
def KeepsPromise (registry : Registry) (engine : Engine) (config : Config) : Prop :=
  (∃ lexer, (registry.load config engine).result = .ok lexer) ∨
    ∃ error, (registry.load config engine).result = .error error ∧ error.kind ∈ promised

/-- The first rule that cannot be loaded alone is one that passes the checks of length
and converter, and has this expression, which cannot be encoded. -/
def StopsAtLone (registry : Registry) (engine : Engine) (rules : List (Text × Text))
    (regex : Text) : Prop :=
  rules.length ≤ maxRules ∧ ∃ before name after, rules = before ++ (regex, name) :: after ∧
    (∀ rule ∈ before, registry.Loads engine [rule]) ∧ regex.length ≤ maxRegexLength ∧
    registry.contains (.text name) = .ok true ∧ regex.isWellFormed = false

theorem StopsAtLone.result (strict : engine.Strict) (sound : registry.Sound)
    (stops : registry.StopsAtLone engine rules regex) :
    (registry.load (.ofTexts rules) engine).result = .error (.unencodable regex) := by
  obtain ⟨few, before, name, after, split, passed, short, known, lone⟩ := stops
  have fault : RuleFault engine registry regex name (.unencodable regex) :=
    .engine short known (strict.failsOn_iff.mpr ⟨lone, rfl⟩)
  exact (sound.load_error_iff few).mpr ⟨before, regex, name, after, split, passed, fault⟩

/-- An error that was not promised comes from an expression that cannot be encoded. -/
theorem Sound.error_promised_or_stops (strict : engine.Strict) (sound : registry.Sound)
    (failed : (registry.load (.ofTexts rules) engine).result = .error error) :
    error.kind ∈ promised ∨
      ∃ regex, error = .unencodable regex ∧ registry.StopsAtLone engine rules regex := by
  by_cases many : maxRules < (Config.ofTexts rules).rules.length
  · rw [load_tooMany many] at failed
    cases failed
    exact Or.inl (by simp [Error.kind, promised])
  rw [Config.length_ofTexts] at many
  have few := Nat.not_lt.mp many
  obtain ⟨before, regex, name, after, split, passed, fault⟩ := (sound.load_error_iff few).mp failed
  cases fault with
  | tooLong => exact Or.inl (by simp [Error.kind, promised])
  | unknownConverter => exact Or.inl (by simp [Error.kind, promised])
  | badExpression => exact Or.inl (by simp [Error.kind, promised])
  | engine short known fails =>
    obtain ⟨lone, rfl⟩ := strict.failsOn_iff.mp fails
    exact Or.inr ⟨regex, rfl, few, before, name, after, split, passed, short, known, lone⟩

theorem Sound.load_unencodable_iff (strict : engine.Strict) (sound : registry.Sound) :
    (registry.load (.ofTexts rules) engine).result = .error (.unencodable regex) ↔
      registry.StopsAtLone engine rules regex := by
  refine ⟨fun failed => ?_, fun stops => stops.result strict sound⟩
  rcases sound.error_promised_or_stops strict failed with kind | ⟨_, same, stops⟩
  · exact absurd kind (Error.not_promised_unencodable regex).2
  · cases same
    exact stops

theorem Sound.keepsPromise_iff (strict : engine.Strict) (sound : registry.Sound) :
    registry.KeepsPromise engine (.ofTexts rules) ↔
      ¬∃ regex, registry.StopsAtLone engine rules regex := by
  constructor
  · rintro kept ⟨regex, stops⟩
    have failed := stops.result strict sound
    rcases kept with ⟨lexer, loaded⟩ | ⟨error, other, kind⟩
    · rw [failed] at loaded
      cases loaded
    · rw [failed] at other
      cases other
      exact absurd kind (Error.not_promised_unencodable regex).2
  · intro never
    cases found : (registry.load (.ofTexts rules) engine).result with
    | ok lexer => exact Or.inl ⟨lexer, found⟩
    | error error =>
      rcases sound.error_promised_or_stops strict found with kind | ⟨regex, _, stops⟩
      · exact Or.inr ⟨error, found, kind⟩
      · exact absurd ⟨regex, stops⟩ never

/-- The promised errors are the only ones just where no lone surrogate reaches the
engine: for one expression, when it can be encoded; for a configuration that was read,
which is one of texts, unless its first rule that cannot be loaded passes the checks of
length and converter and has an expression that cannot be encoded. Otherwise the
complaint of the encoding comes out. -/
theorem errors_promised_unless_lone_surrogate (strict : engine.Strict) (built : registry.Built) :
    (∀ regex, Lexer.KeepsPromise engine regex ↔ regex.isWellFormed = true) ∧
    (∀ regex, regex.isWellFormed = false →
      (Lexer.ofRegex (.text regex) engine).result = .error (.unencodable regex)) ∧
    (∀ data order config, Config.ofValue data order = .ok config →
      ∃ rules, config = .ofTexts rules) ∧
    (∀ rules, registry.KeepsPromise engine (.ofTexts rules) ↔
      ¬∃ regex, registry.StopsAtLone engine rules regex) ∧
    (∀ rules regex, (registry.load (.ofTexts rules) engine).result = .error (.unencodable regex) ↔
      registry.StopsAtLone engine rules regex) := by
  have sound := built.sound
  refine ⟨fun regex => Lexer.keepsPromise_iff strict, fun regex => Lexer.ofRegex_lone strict,
    fun data order config => Config.ofValue_texts, ?_, ?_⟩
  · intro rules
    exact sound.keepsPromise_iff strict
  · intro rules regex
    exact sound.load_unencodable_iff strict

/-- A configuration of one rule, read from data. Its expression is a group around a lone
surrogate. -/
theorem load_lets_lone_surrogate_through :
    Config.ofValue (Config.data [([0x28, 0xd800, 0x29], [0x73])]) =
      .ok (.ofTexts [([0x28, 0xd800, 0x29], [0x73])]) ∧
    (oneConverter.load (.ofTexts [([0x28, 0xd800, 0x29], [0x73])])).result =
      .error (.unencodable [0x28, 0xd800, 0x29]) := by
  refine ⟨Config.ofValue_data .entered _, ?_⟩
  have exactly := errors_promised_unless_lone_surrogate Engine.linear_strict oneConverter_built
  refine (exactly.2.2.2.2 _ _).mpr ⟨by simp [maxRules], [], [0x73], [], rfl, nofun, ?_, ?_, rfl⟩
  · simp [maxRegexLength]
  · exact oneConverter_built.sound.contains_text _

/-- The promise is broken at a group around a lone surrogate. -/
theorem lone_surrogate_breaks_promise :
    ¬Lexer.KeepsPromise .linear [0x28, 0xd800, 0x29] ∧
      (Lexer.ofRegex (.text [0x28, 0xd800, 0x29])).result =
        .error (.unencodable [0x28, 0xd800, 0x29]) ∧
      (Error.unencodable [0x28, 0xd800, 0x29]).kind.isLexerError = false := by
  refine ⟨fun kept => ?_, Lexer.ofRegex_lone Engine.linear_strict rfl, rfl⟩
  have encodable := (Lexer.keepsPromise_iff Engine.linear_strict).mp kept
  exact absurd encodable (by decide)

end Registry

end TokenLexer
