import Mathlib.Data.List.Forall2
import TokenLexer.Proofs.Config
import TokenLexer.Proofs.Value.Sorting

/-!
# The grammar of configurations

What data a configuration can be read from, said without the reader: a dictionary with a
list under `rules`, each element of which is a dictionary with a text under `regex`, maybe
a text under `convert`, and nothing else. The reader accepts this data and no other, and
takes the rules from it one by one.

Main statement: `Config.parsed_just_when_described`.
-/

namespace TokenLexer

/-! ## Entries of a dictionary -/

namespace Value

variable {entries : List (Value × Value)} {key : Text} {value found other : Value}

/-- The key has this value. A dictionary has a key at most once; in a list of entries, the
first one with the key counts. -/
def Has (entries : List (Value × Value)) (key : Text) (value : Value) : Prop :=
  ∃ before after, entries = before ++ (.text key, value) :: after ∧
    ∀ entry ∈ before, entry.1 ≠ .text key

/-- The key has no value. -/
def Lacks (entries : List (Value × Value)) (key : Text) : Prop :=
  ∀ entry ∈ entries, entry.1 ≠ .text key

theorem has_cons_self : Has ((.text key, value) :: entries) key found ↔ value = found := by
  constructor
  · rintro ⟨before, after, split, earlier⟩
    cases before with
    | nil =>
      cases split
      rfl
    | cons entry before =>
      cases split
      exact (earlier _ List.mem_cons_self rfl).elim
  · rintro rfl
    exact ⟨[], entries, rfl, nofun⟩

theorem has_cons_of_ne (different : other ≠ .text key) :
    Has ((other, value) :: entries) key found ↔ Has entries key found := by
  constructor
  · rintro ⟨before, after, split, earlier⟩
    cases before with
    | nil =>
      cases split
      exact (different rfl).elim
    | cons entry before =>
      cases split
      exact ⟨before, after, rfl, (List.forall_mem_cons.mp earlier).2⟩
  · rintro ⟨before, after, rfl, earlier⟩
    exact ⟨(other, value) :: before, after, rfl, List.forall_mem_cons.mpr ⟨different, earlier⟩⟩

theorem find?_eq_some_iff : find? (.text key) entries = some value ↔ Has entries key value := by
  induction entries with
  | nil => simp [find?, Has]
  | cons entry rest ih =>
    obtain ⟨other, value⟩ := entry
    rw [find?]
    split
    · next same =>
      obtain rfl := sameKey_text_iff.mp same
      rw [has_cons_self, Option.some_inj]
    · next different => rw [has_cons_of_ne (mt sameKey_text_iff.mpr different), ih]

theorem find?_eq_none_iff : find? (.text key) entries = Option.none ↔ Lacks entries key := by
  rw [find?_text_eq_none_iff, List.mem_map]
  exact ⟨fun absent entry member same => absent ⟨entry, member, same⟩,
    fun lacks ⟨entry, member, same⟩ => lacks entry member same⟩

end Value

/-! ## Rules -/

namespace Rule

variable {order : KeyOrder} {entries : List (Value × Value)} {data : Value} {rule : Text × Text}

/-- No key but the two of a rule. -/
def OnlyKnown (entries : List (Value × Value)) : Prop :=
  ∀ entry ∈ entries,
    entry.1 = .text (Text.ofString "regex") ∨ entry.1 = .text (Text.ofString "convert")

/-- The data describes the rule with this expression and name. -/
inductive Describes : Value → Text × Text → Prop
  | full {entries : List (Value × Value)} {regex convert : Text}
      (known : OnlyKnown entries)
      (expression : Value.Has entries (Text.ofString "regex") (.text regex))
      (name : Value.Has entries (Text.ofString "convert") (.text convert)) :
      Describes (.dict entries) (regex, convert)
  | brief {entries : List (Value × Value)} {regex : Text}
      (known : OnlyKnown entries)
      (expression : Value.Has entries (Text.ofString "regex") (.text regex))
      (unnamed : Value.Lacks entries (Text.ofString "convert")) :
      Describes (.dict entries) (regex, Text.ofString "str")

theorem unknownKeys_eq_nil_iff : unknownKeys entries = [] ↔ OnlyKnown entries := by
  simp only [unknownKeys, List.filter_eq_nil_iff, List.forall_mem_map, OnlyKnown]
  refine forall₂_congr fun entry _ => ?_
  rw [regexKey, convertKey, ← Value.sameKey_text_iff, ← Value.sameKey_text_iff]
  cases entry.1.sameKey (.text (Text.ofString "regex")) <;> simp

/-- The keys pass just when all of them are known: the set and sorting lose none of the others. -/
theorem checkKeys_ok_iff : checkKeys entries order = .ok () ↔ OnlyKnown entries := by
  rw [← unknownKeys_eq_nil_iff]
  unfold checkKeys
  constructor
  · intro passed
    split at passed
    · next none => exact ((Value.sorted_perm none).trans (order.perm _)).symm.eq_nil
    · split at passed <;> cases passed
    · cases passed
  · intro none
    rw [none, (order.perm []).eq_nil, Value.sorted_nil]

theorem regexOf_ok_iff {regex : Text} : regexOf entries = .ok regex ↔
    Value.Has entries (Text.ofString "regex") (.text regex) := by
  rw [← Value.find?_eq_some_iff, regexOf, regexKey]
  cases Value.find? (.text (Text.ofString "regex")) entries with
  | none => simp
  | some value => cases value <;> simp

theorem convertOf_ok_iff {convert : Text} : convertOf entries = .ok convert ↔
    Value.Has entries (Text.ofString "convert") (.text convert) ∨
      Value.Lacks entries (Text.ofString "convert") ∧ convert = Text.ofString "str" := by
  rw [← Value.find?_eq_some_iff, ← Value.find?_eq_none_iff, convertOf, convertKey]
  cases Value.find? (.text (Text.ofString "convert")) entries with
  | none => simp [defaultConvert, eq_comm]
  | some value => cases value <;> simp

theorem ofValue_dict_ok_iff {result : Rule} : ofValue (.dict entries) order = .ok result ↔
    ∃ regex convert, regexOf entries = .ok regex ∧ convertOf entries = .ok convert ∧
      checkKeys entries order = .ok () ∧ ⟨.text regex, .text convert⟩ = result := by
  simp only [ofValue, bind_ok_iff]
  constructor
  · rintro ⟨regex, expression, convert, name, _, known, made⟩
    exact ⟨regex, convert, expression, name, known, Except.ok.inj made⟩
  · rintro ⟨regex, convert, expression, name, known, rfl⟩
    exact ⟨regex, expression, convert, name, (), known, rfl⟩

theorem ofValue_ok_iff {result : Rule} : ofValue data order = .ok result ↔
    ∃ rule, Describes data rule ∧ ⟨.text rule.1, .text rule.2⟩ = result := by
  constructor
  · intro parsed
    cases data with
    | dict entries =>
      obtain ⟨regex, convert, expression, name, known, rfl⟩ := ofValue_dict_ok_iff.mp parsed
      have known := checkKeys_ok_iff.mp known
      have expression := regexOf_ok_iff.mp expression
      rcases convertOf_ok_iff.mp name with named | ⟨unnamed, rfl⟩
      · exact ⟨(regex, convert), .full known expression named, rfl⟩
      · exact ⟨(regex, Text.ofString "str"), .brief known expression unnamed, rfl⟩
    | _ => cases parsed
  · rintro ⟨rule, describes, rfl⟩
    cases describes with
    | full known expression name =>
      exact ofValue_dict_ok_iff.mpr ⟨_, _, regexOf_ok_iff.mpr expression,
        convertOf_ok_iff.mpr (.inl name), checkKeys_ok_iff.mpr known, rfl⟩
    | brief known expression unnamed =>
      exact ofValue_dict_ok_iff.mpr ⟨_, _, regexOf_ok_iff.mpr expression,
        convertOf_ok_iff.mpr (.inr ⟨unnamed, rfl⟩), checkKeys_ok_iff.mpr known, rfl⟩

/-- The data that is written for a rule: both fields in either order, or the expression
alone where the name is the default one. -/
inductive Encodes : Value → Text × Text → Prop
  | full (regex convert : Text) :
      Encodes (.dict [(regexKey, .text regex), (convertKey, .text convert)]) (regex, convert)
  | reversed (regex convert : Text) :
      Encodes (.dict [(convertKey, .text convert), (regexKey, .text regex)]) (regex, convert)
  | brief (regex : Text) : Encodes (.dict [(regexKey, .text regex)]) (regex, Text.ofString "str")

theorem Encodes.describes (encodes : Encodes data rule) : Describes data rule := by
  have different : Value.text (Text.ofString "regex") ≠ .text (Text.ofString "convert") := by
    rw [Ne, Value.text.injEq]
    decide
  cases encodes with
  | full regex convert =>
    refine .full (by simp [OnlyKnown, regexKey, convertKey]) (Value.has_cons_self.mpr rfl) ?_
    exact (Value.has_cons_of_ne different).mpr (Value.has_cons_self.mpr rfl)
  | reversed regex convert =>
    refine .full (by simp [OnlyKnown, regexKey, convertKey]) ?_ (Value.has_cons_self.mpr rfl)
    exact (Value.has_cons_of_ne different.symm).mpr (Value.has_cons_self.mpr rfl)
  | brief regex =>
    refine .brief (by simp [OnlyKnown, regexKey]) (Value.has_cons_self.mpr rfl) ?_
    exact List.forall_mem_singleton.mpr different

end Rule

/-! ## Configurations -/

namespace Config

variable {order : KeyOrder} {data : Value} {items : List Value} {rules : List (Text × Text)}

/-- The data describes the configuration with these expressions and names. -/
inductive Describes : Value → List (Text × Text) → Prop
  | mk {entries : List (Value × Value)} {items : List Value} {rules : List (Text × Text)}
      (list : Value.Has entries (Text.ofString "rules") (.list items))
      (each : List.Forall₂ Rule.Describes items rules) :
      Describes (.dict entries) rules

theorem mapM_ofValue_ok_iff {results : List Rule} :
    (items.mapM fun item => Rule.ofValue item order) = .ok results ↔
      ∃ rules, List.Forall₂ Rule.Describes items rules ∧ (ofTexts rules).rules = results := by
  induction items generalizing results with
  | nil =>
    simp only [List.forall₂_nil_left_iff, exists_eq_left]
    exact ⟨Except.ok.inj, congrArg Except.ok⟩
  | cons item items ih =>
    rw [List.mapM_cons]
    simp only [bind_ok_iff, Rule.ofValue_ok_iff, ih]
    constructor
    · rintro ⟨_, ⟨rule, describes, rfl⟩, _, ⟨rules, each, rfl⟩, made⟩
      exact ⟨rule :: rules, .cons describes each, Except.ok.inj made⟩
    · rintro ⟨_, _ | ⟨describes, each⟩, rfl⟩
      exact ⟨_, ⟨_, describes, rfl⟩, _, ⟨_, each, rfl⟩, rfl⟩

theorem ofValue_ok_iff {config : Config} : ofValue data order = .ok config ↔
    ∃ rules, Describes data rules ∧ config = .ofTexts rules := by
  constructor
  · intro parsed
    cases data with
    | dict entries =>
      simp only [ofValue] at parsed
      split at parsed
      · cases parsed
      · cases parsed
      · next items found =>
        obtain ⟨results, read, made⟩ := bind_ok_iff.mp parsed
        obtain ⟨rules, each, rfl⟩ := mapM_ofValue_ok_iff.mp read
        exact ⟨rules, .mk (Value.find?_eq_some_iff.mp found) each, (Except.ok.inj made).symm⟩
      · cases parsed
    | _ => cases parsed
  · rintro ⟨rules, ⟨list, each⟩, rfl⟩
    have found := Value.find?_eq_some_iff.mpr list
    have read := (@mapM_ofValue_ok_iff order _ _).mpr ⟨rules, each, rfl⟩
    simp only [ofValue, rulesKey, found, read, ok_bind]
    rfl

/-- A configuration is read just from the data that describes one, and then it has one rule
for each element of the list, in the order of the list. Whatever way its rules are encoded,
reading gives it back; and what is read are the configurations of texts. -/
theorem parsed_just_when_described (order : KeyOrder) (data : Value) (config : Config) :
    (ofValue data order = .ok config ↔ ∃ rules, Describes data rules ∧ config = .ofTexts rules) ∧
    (∀ rules items, List.Forall₂ Rule.Encodes items rules →
      ofValue (.dict [(rulesKey, .list items)]) order = .ok (.ofTexts rules)) ∧
    ((∃ source, ofValue source order = .ok config) ↔ ∃ rules, config = .ofTexts rules) := by
  refine ⟨ofValue_ok_iff, fun rules items encoded => ?_, ?_⟩
  · refine ofValue_ok_iff.mpr ⟨rules, .mk (Value.has_cons_self.mpr rfl) ?_, rfl⟩
    exact encoded.imp fun _ _ => Rule.Encodes.describes
  · constructor
    · rintro ⟨source, parsed⟩
      exact ofValue_texts parsed
    · rintro ⟨rules, rfl⟩
      exact ⟨Config.data rules, ofValue_data order rules⟩

/-- Read although a field of the dictionary is not known, the expressions have no syntax, and
one of the rules has no name. -/
theorem broken_expressions_parsed :
    ofValue (.dict [(.int 1, .none), (rulesKey, .list [
        .dict [(Rule.convertKey, .text [0x78]), (Rule.regexKey, .text [0x28])],
        .dict [(Rule.regexKey, .text [0x29])]])]) =
      .ok (.ofTexts [([0x28], [0x78]), ([0x29], Text.ofString "str")]) := by
  have each : List.Forall₂ Rule.Describes _ _ :=
    .cons (Rule.Encodes.reversed [0x28] [0x78]).describes
      (.cons (Rule.Encodes.brief [0x29]).describes .nil)
  have other : Value.int 1 ≠ .text (Text.ofString "rules") := nofun
  refine (parsed_just_when_described _ _ _).1.mpr ⟨_, .mk ?_ each, rfl⟩
  exact (Value.has_cons_of_ne other).mpr (Value.has_cons_self.mpr rfl)

end Config

end TokenLexer
