import TokenLexer.Config
import TokenLexer.Proofs.Value.Sorting

/-!
# Configurations that were read

Reading lets only texts through: the expression and the name of every rule. And each
configuration of texts can be read.

Main statements: `Config.ofValue_texts` and `Config.ofValue_data`.
-/

namespace TokenLexer

/-- The configuration with these expressions and names. -/
def Config.ofTexts (rules : List (Text × Text)) : Config :=
  ⟨rules.map fun rule => ⟨.text rule.1, .text rule.2⟩⟩

theorem Config.length_ofTexts (rules : List (Text × Text)) :
    (Config.ofTexts rules).rules.length = rules.length :=
  List.length_map _

theorem Rule.ofValue_texts {order : KeyOrder} {data : Value} {rule : Rule}
    (parsed : Rule.ofValue data order = .ok rule) :
    ∃ texts : Text × Text, ⟨.text texts.1, .text texts.2⟩ = rule := by
  cases data with
  | dict entries =>
    obtain ⟨regex, _, parsed⟩ := bind_ok_iff.mp parsed
    obtain ⟨convert, _, parsed⟩ := bind_ok_iff.mp parsed
    obtain ⟨_, _, parsed⟩ := bind_ok_iff.mp parsed
    exact ⟨(regex, convert), Except.ok.inj parsed⟩
  | _ => cases parsed

/-- A configuration that was read has texts in all of its rules. -/
theorem Config.ofValue_texts {order : KeyOrder} {data : Value} {config : Config}
    (parsed : Config.ofValue data order = .ok config) : ∃ rules, config = .ofTexts rules := by
  cases data with
  | dict entries =>
    simp only [Config.ofValue] at parsed
    split at parsed
    · cases parsed
    · cases parsed
    · obtain ⟨rules, read, parsed⟩ := bind_ok_iff.mp parsed
      cases parsed
      obtain ⟨texts, rfl⟩ := mapM_parts (fun parsed => Rule.ofValue_texts parsed) read
      exact ⟨texts, rfl⟩
    · cases parsed
  | _ => cases parsed

/-! ## Data to be read -/

/-- The data of a rule with these texts. -/
def Rule.data (rule : Text × Text) : Value :=
  .dict [(regexKey, .text rule.1), (convertKey, .text rule.2)]

/-- The data of a configuration with these expressions and names. -/
def Config.data (rules : List (Text × Text)) : Value :=
  .dict [(rulesKey, .list (rules.map Rule.data))]

theorem Rule.ofValue_data (order : KeyOrder) (rule : Text × Text) :
    Rule.ofValue (Rule.data rule) order = .ok ⟨.text rule.1, .text rule.2⟩ := by
  have different : (Text.ofString "regex" == Text.ofString "convert") = false := by decide
  have known : unknownKeys [(regexKey, .text rule.1), (convertKey, .text rule.2)] = [] := by
    simp [unknownKeys, regexKey, convertKey]
  have checked : checkKeys [(regexKey, .text rule.1), (convertKey, .text rule.2)] order =
      .ok () := by
    rw [checkKeys, known, (order.perm []).eq_nil, Value.sorted_nil]
  have regex : regexOf [(regexKey, .text rule.1), (convertKey, .text rule.2)] = .ok rule.1 := by
    simp [regexOf, regexKey, Value.find?]
  have convert : convertOf [(regexKey, .text rule.1), (convertKey, .text rule.2)] = .ok rule.2 := by
    simp [convertOf, regexKey, convertKey, Value.find?, different]
  simp only [Rule.ofValue, Rule.data, regex, convert, checked, ok_bind]
  rfl

/-- Reading the data of a configuration of texts gives this configuration. -/
theorem Config.ofValue_data (order : KeyOrder) (rules : List (Text × Text)) :
    Config.ofValue (Config.data rules) order = .ok (.ofTexts rules) := by
  have found : Value.find? rulesKey [(rulesKey, Value.list (rules.map Rule.data))] =
      some (.list (rules.map Rule.data)) := by
    simp [rulesKey, Value.find?]
  have read : ((rules.map Rule.data).mapM fun item => Rule.ofValue item order) =
      .ok (rules.map fun rule => ⟨.text rule.1, .text rule.2⟩) := by
    rw [List.mapM_map]
    exact (mapM_congr fun rule _ => Rule.ofValue_data order rule).trans List.mapM_pure
  simp only [Config.ofValue, Config.data, found, read, ok_bind]
  rfl

end TokenLexer
