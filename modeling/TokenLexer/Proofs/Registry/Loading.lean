import TokenLexer.Proofs.Config
import TokenLexer.Proofs.Lexer.Expression
import TokenLexer.Proofs.Registry.Naming

/-!
# Loading

What loading a configuration of texts ends in, for a registry that was built under
texts. The rules are looked at in order, and the first one that cannot be loaded
decides. Of one rule the length of the expression is looked at first, then the name
of the converter, and the expression itself last.

Main statements: `loadRule_error_iff` for one rule, `load_result` for all of them, and
`load_decided_by_first_fault`.
-/

namespace TokenLexer

/-- Falls back to one lexer after another. -/
def Lexer.orElseAll (first : Lexer Value) (others : List (Lexer Value)) : Lexer Value :=
  others.foldl .orElse first

/-- The lexer that tries these in order. -/
def Lexer.inOrder : List (Lexer Value) → Lexer Value
  | [] => .empty
  | first :: others => first.orElseAll others

variable {engine : Engine} {registry : Registry} {regex name : Text} {error : Error}

/-- Why one rule cannot be loaded. Each of the reasons presupposes that those before
it do not apply, and says nothing about those behind it. -/
inductive RuleFault (engine : Engine) (registry : Registry) (regex name : Text) : Error → Prop
  | tooLong (long : Registry.maxRegexLength < regex.length) :
      RuleFault engine registry regex name (.patternTooLong regex.length Registry.maxRegexLength)
  | unknownConverter {names : List Text} (short : regex.length ≤ Registry.maxRegexLength)
      (missing : registry.contains (.text name) = .ok false) (listing : registry.Listing names) :
      RuleFault engine registry regex name (.unknownConverter (.text name) (names.map .text))
  | badExpression {cause : Error} (short : regex.length ≤ Registry.maxRegexLength)
      (known : registry.contains (.text name) = .ok true)
      (fault : ExpressionFault engine regex cause) :
      RuleFault engine registry regex name (.invalidConfig cause)
  | engine {error : Error} (short : regex.length ≤ Registry.maxRegexLength)
      (known : registry.contains (.text name) = .ok true) (failed : engine.FailsOn regex error) :
      RuleFault engine registry regex name error

namespace Registry

/-! ## Converters -/

/-- The converter that is registered under the name, as a value. -/
def converter (registry : Registry) (name : Text) : Value :=
  match registry.find? (.text name) with
  | .ok (some converter) => .ofMapper converter
  | _ => .none

theorem isCallable_ofMapper {converter : Mapper Value}
    (callable : (Value.mapper converter).isCallable = true) :
    Value.ofMapper converter = .mapper converter := by
  cases converter with
  | inert value => cases callable
  | _ => rfl

theorem Sound.find?_known (sound : registry.Sound)
    (known : registry.contains (.text name) = .ok true) :
    ∃ converter, registry.find? (.text name) = .ok (some converter) ∧
      registry.converter name = .mapper converter ∧ (Value.mapper converter).isCallable = true := by
  rw [sound.contains_text, Except.ok.injEq, ← Value.find?_text_isSome sound.keyed] at known
  obtain ⟨converter, found⟩ := Option.isSome_iff_exists.mp known
  have found : registry.find? (.text name) = .ok (some converter) := by
    rw [find?_text, found]
  have callable := sound.find?_callable found
  refine ⟨converter, found, ?_, callable⟩
  rw [Registry.converter, found, ← isCallable_ofMapper callable]

theorem Sound.converter_callable (sound : registry.Sound)
    (known : registry.contains (.text name) = .ok true) :
    (registry.converter name).isCallable = true := by
  obtain ⟨converter, _, same, callable⟩ := sound.find?_known known
  rw [same]
  exact callable

theorem Sound.contains_cases (sound : registry.Sound) (name : Text) :
    registry.contains (.text name) = .ok true ∨ registry.contains (.text name) = .ok false := by
  rw [sound.contains_text]
  cases decide (name ∈ registry.textNames) with
  | true => exact Or.inl rfl
  | false => exact Or.inr rfl

/-! ## One rule -/

/-- The lexer of one rule, built by hand. -/
def branch (registry : Registry) (engine : Engine) (regex name : Text) : Build (Lexer Value) :=
  Lexer.ofRegexMap (.text regex) (registry.converter name) engine

theorem Sound.branch_error_iff (sound : registry.Sound)
    (known : registry.contains (.text name) = .ok true) :
    (registry.branch engine regex name).result = .error error ↔
      ExpressionFault engine regex error ∨ engine.FailsOn regex error :=
  Lexer.ofRegexMap_error_iff (sound.converter_callable known)

theorem Sound.branch_ok_iff (sound : registry.Sound)
    (known : registry.contains (.text name) = .ok true) {lexer : Lexer Value} :
    (registry.branch engine regex name).result = .ok lexer ↔
      ∃ leaf, engine.compile regex = .ok leaf ∧ leaf.groups = .int 1 ∧
        lexer = .mapped (.pattern leaf) (registry.converter name).toMapper :=
  Lexer.ofRegexMap_ok_iff (sound.converter_callable known)

theorem blameConfig_fault (fault : ExpressionFault engine regex error) :
    blameConfig error = .invalidConfig error := by
  rw [blameConfig, fault.isLexerError, if_pos rfl]

theorem blameConfig_failed (failed : engine.FailsOn regex error) : blameConfig error = error := by
  rw [blameConfig, failed.not_isLexerError, if_neg Bool.false_ne_true]

theorem loadRule_tooLong (long : maxRegexLength < regex.length) (name : Text) :
    (registry.loadRule ⟨.text regex, .text name⟩ engine).result =
      .error (.patternTooLong regex.length maxRegexLength) := by
  rw [loadRule, Traced.result_bind]
  simp only [lengthOf, Traced.result_ofExcept, ok_bind, gt_iff_lt, if_pos long]
  rfl

/-- A rule that is not too long is decided by its converter. -/
theorem loadRule_short (short : regex.length ≤ maxRegexLength) :
    (registry.loadRule ⟨.text regex, .text name⟩ engine).result =
      match Value.find? (.text name) registry.converters with
      | none | some (.inert .none) => .error (registry.unknownConverter (.text name))
      | some converter =>
        (Lexer.ofRegexMap (.text regex) (.ofMapper converter) engine).result.mapError
          blameConfig := by
  rw [loadRule, Traced.result_bind]
  simp only [lengthOf, Traced.result_ofExcept, ok_bind, gt_iff_lt, if_neg (Nat.not_lt.mpr short),
    find?_text, Traced.result_bind]
  cases Value.find? (.text name) registry.converters with
  | none => rfl
  | some converter =>
    cases converter with
    | inert value => cases value <;> rfl
    | _ => rfl

theorem loadRule_unknown (short : regex.length ≤ maxRegexLength)
    (missing : registry.contains (.text name) = .ok false) :
    (registry.loadRule ⟨.text regex, .text name⟩ engine).result =
      .error (registry.unknownConverter (.text name)) := by
  have absent := Except.ok.inj (contains_eq_false_iff.mp missing)
  rw [loadRule_short short, absent]

/-- A rule that passes the first two checks goes the way of its expression. -/
theorem Sound.loadRule_known (sound : registry.Sound) (short : regex.length ≤ maxRegexLength)
    (known : registry.contains (.text name) = .ok true) :
    (registry.loadRule ⟨.text regex, .text name⟩ engine).result =
      (registry.branch engine regex name).result.mapError blameConfig := by
  obtain ⟨converter, found, same, callable⟩ := sound.find?_known known
  have present := Except.ok.inj found
  rw [loadRule_short short, present, branch, same]
  -- Only `none` itself would pass for a missing converter, and it cannot be called.
  cases converter with
  | inert value => cases callable
  | _ => rfl

/-- A rule cannot be loaded just when there is a reason for it, which is the error. -/
theorem Sound.loadRule_error_iff (sound : registry.Sound) :
    (registry.loadRule ⟨.text regex, .text name⟩ engine).result = .error error ↔
      RuleFault engine registry regex name error := by
  constructor
  · intro failed
    -- The cases follow the checks of `loadRule`, in its order.
    by_cases long : maxRegexLength < regex.length
    · rw [loadRule_tooLong long] at failed
      cases failed
      exact .tooLong long
    have short := Nat.not_lt.mp long
    rcases sound.contains_cases name with known | missing
    · rw [sound.loadRule_known short known] at failed
      obtain ⟨cause, stopped, rfl⟩ := mapError_error_iff.mp failed
      rcases (sound.branch_error_iff known).mp stopped with fault | fails
      · rw [blameConfig_fault fault]
        exact .badExpression short known fault
      · rw [blameConfig_failed fails]
        exact .engine short known fails
    · rw [loadRule_unknown short missing, sound.unknownConverter_eq sound.listing_sorted,
        Error.showing_text] at failed
      cases failed
      exact .unknownConverter short missing sound.listing_sorted
  · intro fault
    cases fault with
    | tooLong long => exact loadRule_tooLong long name
    | unknownConverter short missing listing =>
      rw [loadRule_unknown short missing, sound.unknownConverter_eq listing, Error.showing_text]
    | badExpression short known fault =>
      have stopped := (sound.branch_error_iff known).mpr (Or.inl fault)
      rw [sound.loadRule_known short known, stopped, ← blameConfig_fault fault]
      rfl
    | engine short known fails =>
      have stopped := (sound.branch_error_iff known).mpr (Or.inr fails)
      rw [sound.loadRule_known short known, stopped]
      exact congrArg Except.error (blameConfig_failed fails)

/-! ## All rules -/

theorem loadOnto_result (registry : Registry) (engine : Engine) (lexer : Option (Lexer Value))
    (rules : List Rule) : (registry.loadOnto engine lexer rules).result =
      (rules.mapM fun rule => (registry.loadRule rule engine).result).map
        fun branches => Lexer.inOrder (lexer.toList ++ branches) := by
  induction rules generalizing lexer with
  | nil => cases lexer <;> rfl
  | cons rule rest ih =>
    rw [loadOnto, Traced.result_bind, List.mapM_cons]
    cases (registry.loadRule rule engine).result with
    | error error => rfl
    | ok branch =>
      simp only [ok_bind, ih]
      -- Both sides join the branch to the lexer so far before they go on.
      cases rest.mapM fun rule => (registry.loadRule rule engine).result with
      | error error => rfl
      | ok branches => cases lexer <;> rfl

theorem load_tooMany {config : Config} (many : maxRules < config.rules.length) :
    (registry.load config engine).result = .error (.tooManyRules config.rules.length maxRules) := by
  unfold load
  rw [if_pos many]
  rfl

theorem load_few {config : Config} (few : config.rules.length ≤ maxRules) :
    (registry.load config engine).result =
      (config.rules.mapM fun rule => (registry.loadRule rule engine).result).map Lexer.inOrder := by
  unfold load
  rw [if_neg (Nat.not_lt.mpr few), Traced.result_bind, loadOnto_result]
  cases config.rules.mapM fun rule => (registry.loadRule rule engine).result <;> rfl

/-- The lexers of the rules, in order of preference. -/
theorem load_result {rules : List (Text × Text)} (few : rules.length ≤ maxRules) :
    (registry.load (.ofTexts rules) engine).result =
      (rules.mapM fun rule => (registry.loadRule ⟨.text rule.1, .text rule.2⟩ engine).result).map
        Lexer.inOrder := by
  rw [load_few (by rwa [Config.length_ofTexts]), Config.ofTexts, List.mapM_map]
  rfl

/-- The rules can be loaded. -/
def Loads (registry : Registry) (engine : Engine) (rules : List (Text × Text)) : Prop :=
  ∃ lexer, (registry.load (.ofTexts rules) engine).result = .ok lexer

theorem loads_iff {rules : List (Text × Text)} (few : rules.length ≤ maxRules) :
    registry.Loads engine rules ↔ ∀ rule ∈ rules, ∃ branch,
      (registry.loadRule ⟨.text rule.1, .text rule.2⟩ engine).result = .ok branch := by
  rw [Loads, load_result few, ← mapM_ok_iff]
  simp only [map_ok_iff]
  constructor
  · rintro ⟨_, branches, done, _⟩
    exact ⟨branches, done⟩
  · rintro ⟨branches, done⟩
    exact ⟨_, branches, done, rfl⟩

theorem loads_singleton {rule : Text × Text} : registry.Loads engine [rule] ↔ ∃ branch,
    (registry.loadRule ⟨.text rule.1, .text rule.2⟩ engine).result = .ok branch := by
  rw [loads_iff (by simp [maxRules]), List.forall_mem_singleton]

/-- One rule can be loaded when it passes every check. -/
theorem Sound.loads_one_iff (sound : registry.Sound) : registry.Loads engine [(regex, name)] ↔
    regex.length ≤ maxRegexLength ∧ registry.contains (.text name) = .ok true ∧
      ∃ leaf, engine.compile regex = .ok leaf ∧ leaf.groups = .int 1 := by
  rw [loads_singleton]
  constructor
  · rintro ⟨branch, loaded⟩
    have short : regex.length ≤ maxRegexLength := by
      refine Nat.not_lt.mp fun long => ?_
      rw [loadRule_tooLong long] at loaded
      cases loaded
    rcases sound.contains_cases name with known | missing
    · rw [sound.loadRule_known short known, mapError_ok_iff, sound.branch_ok_iff known] at loaded
      obtain ⟨leaf, compiled, counted, _⟩ := loaded
      exact ⟨short, known, leaf, compiled, counted⟩
    · rw [loadRule_unknown short missing] at loaded
      cases loaded
  · rintro ⟨short, known, leaf, compiled, counted⟩
    refine ⟨.mapped (.pattern leaf) (registry.converter name).toMapper, ?_⟩
    rw [sound.loadRule_known short known, mapError_ok_iff, sound.branch_ok_iff known]
    exact ⟨leaf, compiled, counted, rfl⟩

/-- The error of a configuration that has not too many rules is that of its first rule
that cannot be loaded alone. -/
theorem Sound.load_error_iff (sound : registry.Sound) {rules : List (Text × Text)}
    (few : rules.length ≤ maxRules) :
    (registry.load (.ofTexts rules) engine).result = .error error ↔
      ∃ before regex name after, rules = before ++ (regex, name) :: after ∧
        (∀ rule ∈ before, registry.Loads engine [rule]) ∧
        RuleFault engine registry regex name error := by
  rw [load_result few, map_error_iff, mapM_error_iff]
  simp only [← loads_singleton]
  constructor
  · rintro ⟨before, ⟨regex, name⟩, after, split, passed, failed⟩
    exact ⟨before, regex, name, after, split, passed, sound.loadRule_error_iff.mp failed⟩
  · rintro ⟨before, regex, name, after, split, passed, fault⟩
    exact ⟨before, (regex, name), after, split, passed, sound.loadRule_error_iff.mpr fault⟩

/-- What loading ends in. Too many rules are refused whatever they are. Otherwise the
first rule that cannot be loaded alone decides the error, by the first reason that
applies to it, and the rules behind it do not matter. -/
theorem load_decided_by_first_fault (built : registry.Built) (engine : Engine)
    (rules : List (Text × Text)) :
    (maxRules < rules.length →
      (registry.load (.ofTexts rules) engine).result =
        .error (.tooManyRules rules.length maxRules)) ∧
    (rules.length ≤ maxRules →
      ∀ error, (registry.load (.ofTexts rules) engine).result = .error error ↔
        ∃ before regex name after, rules = before ++ (regex, name) :: after ∧
          (∀ rule ∈ before, registry.Loads engine [rule]) ∧
          RuleFault engine registry regex name error) ∧
    (rules.length ≤ maxRules →
      ∀ before after error, rules = before ++ after →
        (registry.load (.ofTexts before) engine).result = .error error →
        (registry.load (.ofTexts rules) engine).result = .error error) ∧
    (registry.Loads engine rules ↔
      rules.length ≤ maxRules ∧ ∀ rule ∈ rules, registry.Loads engine [rule]) ∧
    (∀ regex name, registry.Loads engine [(regex, name)] ↔
      regex.length ≤ maxRegexLength ∧ registry.contains (.text name) = .ok true ∧
        ∃ leaf, engine.compile regex = .ok leaf ∧ leaf.groups = .int 1) := by
  have refused (many : maxRules < rules.length) : (registry.load (.ofTexts rules) engine).result =
      .error (.tooManyRules rules.length maxRules) := by
    rw [← Config.length_ofTexts] at many ⊢
    exact load_tooMany many
  refine ⟨refused, fun few error => built.sound.load_error_iff few, ?_, ?_,
    fun regex name => built.sound.loads_one_iff⟩
  · -- A prefix that fails has a first fault, and that is the first one of the whole list.
    rintro few before after error rfl failed
    have fewer : before.length ≤ maxRules := by
      rw [List.length_append] at few
      omega
    obtain ⟨earlier, regex, name, later, rfl, passed, fault⟩ :=
      (built.sound.load_error_iff fewer).mp failed
    exact (built.sound.load_error_iff few).mpr
      ⟨earlier, regex, name, later ++ after, by simp, passed, fault⟩
  · constructor
    · rintro ⟨lexer, loaded⟩
      have few : rules.length ≤ maxRules := by
        refine Nat.not_lt.mp fun many => ?_
        rw [refused many] at loaded
        cases loaded
      refine ⟨few, fun rule member => loads_singleton.mpr ?_⟩
      exact (loads_iff few).mp ⟨lexer, loaded⟩ rule member
    · rintro ⟨few, each⟩
      exact (loads_iff few).mpr fun rule member => loads_singleton.mp (each rule member)

/-- The second rule names no converter, and is not looked at any further although its
expression is at fault as well. -/
theorem load_stops_at_unknown_converter :
    (oneConverter.load (.ofTexts [([0x28, 0x29], [0x73]), ([0x28], [0x78]), ([], [])])).result =
      .error (.unknownConverter (.text [0x78]) [.text [0x73]]) := by
  have sound := oneConverter_built.sound
  have few : [([0x28, 0x29], [0x73]), ([0x28], [0x78]), ([], [])].length ≤ maxRules := by
    simp [maxRules]
  have passed : oneConverter.Loads .linear [([0x28, 0x29], [0x73])] :=
    sound.loads_one_iff.mpr ⟨by simp [maxRegexLength], sound.contains_text _, _, rfl, rfl⟩
  refine ((load_decided_by_first_fault oneConverter_built .linear _).2.1 few _).mpr
    ⟨[([0x28, 0x29], [0x73])], [0x28], [0x78], [([], [])], rfl, ?_, ?_⟩
  · simpa using passed
  · refine @RuleFault.unknownConverter _ _ _ _ [[0x73]] (by simp [maxRegexLength])
      (sound.contains_text _) ⟨List.pairwise_singleton _ _, fun name => ?_⟩
    rw [sound.contains_text, Except.ok.injEq, decide_eq_true_iff]
    rfl

end Registry

end TokenLexer
