import TokenLexer.Proofs.Registry.Branching

/-!
# Registrations

What a registry holds is told by the registrations that it was built with, in the order in
which they were made. Under each name counts the last of them; how often, and between which
others, a name was registered does not show.

Main statements: `find?_enterAll_empty` and `reflects_enterAll`.
-/

namespace TokenLexer

namespace Value

variable {α : Type} {entries : List (Value × α)} {names : List Text}

theorem find?_insert_text (keyed : entries.map (·.1) = names.map .text) (name asked : Text)
    (value : α) : find? (.text asked) (insert (.text name) value entries) =
      if name = asked then some value else find? (.text asked) entries := by
  induction entries generalizing names with
  | nil => simp [insert, find?]
  | cons entry rest ih =>
    obtain ⟨other, old⟩ := entry
    obtain ⟨first, others, rfl, rfl, tail⟩ := List.map_eq_cons_iff.mp keyed.symm
    have later := ih tail.symm
    by_cases same : first = name
    · subst same
      by_cases found : first = asked <;> simp [insert, find?, found]
    · by_cases found : first = asked
      · subst found
        simp [insert, find?, same, Ne.symm same]
      · simp [insert, find?, same, found, later]

end Value

namespace Registry

variable {registry : Registry} {engine : Engine} {entries : List (Text × Value)}
  {name : Text} {converter : Value}

/-! ## One registration -/

theorem Sound.enter (sound : registry.Sound) (name : Text)
    (callable : converter.isCallable = true) :
    (registry.enter (.text name) converter).Sound :=
  sound.register (register_ok_iff.mpr ⟨callable, rfl, rfl⟩)

theorem Sound.mem_textNames_enter (sound : registry.Sound) {other : Text} :
    other ∈ (registry.enter (.text name) converter).textNames ↔
      other ∈ registry.textNames ∨ other = name := by
  rw [textNames_eq (sound.keyed_enter name converter)]
  split
  · next present =>
    exact ⟨Or.inl, fun known => known.elim id fun same => same ▸ present⟩
  · rw [List.mem_append, List.mem_singleton]

/-! ## All registrations -/

/-- The registry after these registrations, one after another. -/
def enterAll (registry : Registry) (entries : List (Value × Value)) : Registry :=
  entries.foldl (fun registry entry => registry.enter entry.1 entry.2) registry

/-- The registrations of the converters that need no setting up. -/
def coreEntries : List (Value × Value) :=
  core.map fun f => (.text (Text.ofString f.name), .mapper (.function f))

theorem registerCore_eq (registry : Registry) :
    registry.registerCore = .ok (registry.enterAll coreEntries) := rfl

theorem enterAll_append (registry : Registry) (entries others : List (Value × Value)) :
    registry.enterAll (entries ++ others) = (registry.enterAll entries).enterAll others :=
  List.foldl_append

/-- Registrations under texts. -/
def underTexts (entries : List (Text × Value)) : List (Value × Value) :=
  entries.map fun entry => (.text entry.1, entry.2)

/-- Every converter can be called. -/
def Callable (entries : List (Text × Value)) : Prop :=
  ∀ entry ∈ entries, entry.2.isCallable = true

theorem Sound.enterAll (sound : registry.Sound) (callable : Callable entries) :
    (registry.enterAll (underTexts entries)).Sound := by
  induction entries generalizing registry with
  | nil => exact sound
  | cons entry rest ih =>
    obtain ⟨first, others⟩ := List.forall_mem_cons.mp callable
    exact ih (sound.enter entry.1 first) others

theorem Sound.mem_textNames_enterAll (sound : registry.Sound) (callable : Callable entries) :
    name ∈ (registry.enterAll (underTexts entries)).textNames ↔
      name ∈ registry.textNames ∨ name ∈ entries.map (·.1) := by
  induction entries generalizing registry with
  | nil => simp [Registry.enterAll, underTexts]
  | cons entry rest ih =>
    obtain ⟨first, others⟩ := List.forall_mem_cons.mp callable
    calc
      name ∈ ((registry.enter (.text entry.1) entry.2).enterAll (underTexts rest)).textNames
        ↔ name ∈ (registry.enter (.text entry.1) entry.2).textNames ∨ name ∈ rest.map (·.1) :=
          ih (sound.enter entry.1 first) others
      _ ↔ (name ∈ registry.textNames ∨ name = entry.1) ∨ name ∈ rest.map (·.1) := by
          rw [sound.mem_textNames_enter]
      _ ↔ name ∈ registry.textNames ∨ name ∈ (entry :: rest).map (·.1) := by
          rw [List.map_cons, List.mem_cons, or_assoc]

/-- The converter that was registered last under the name. -/
def lastUnder (name : Text) (entries : List (Text × Value)) : Option Value :=
  entries.reverse.lookup name

theorem lastUnder_concat (name : Text) (before : List (Text × Value)) (entry : Text × Value) :
    lastUnder name (before ++ [entry]) =
      if name = entry.1 then some entry.2 else lastUnder name before := by
  rw [lastUnder, List.reverse_append, List.reverse_singleton, List.singleton_append,
    List.lookup_cons]
  by_cases same : name = entry.1
  · simp [same]
  · rw [beq_false_of_ne same, if_neg same, lastUnder]

/-- A converter is the last one under its name if the name does not come again. -/
theorem lastUnder_of_not_mem {earlier later : List (Text × Value)}
    (absent : name ∉ later.map (·.1)) :
    lastUnder name (earlier ++ (name, converter) :: later) = some converter := by
  induction later using List.reverseRecOn with
  | nil => rw [lastUnder_concat, if_pos rfl]
  | append_singleton before entry ih =>
    rw [List.map_append, List.mem_append, not_or, List.map_singleton, List.mem_singleton] at absent
    rw [← List.cons_append, ← List.append_assoc, lastUnder_concat, if_neg absent.2, ih absent.1]

/-- Of what was registered under a name, the registry has the converter that came last. -/
theorem find?_enterAll_empty (callable : Callable entries) (name : Text) :
    (Registry.empty.enterAll (underTexts entries)).find? (.text name) =
      .ok ((lastUnder name entries).map Value.toMapper) := by
  induction entries using List.reverseRecOn with
  | nil => rfl
  | append_singleton before entry ih =>
    obtain ⟨front, _⟩ := List.forall_mem_append.mp callable
    have sound := Built.empty.sound.enterAll front
    have last : Registry.empty.enterAll (underTexts (before ++ [entry])) =
        (Registry.empty.enterAll (underTexts before)).enter (.text entry.1) entry.2 := by
      rw [underTexts, List.map_append, enterAll_append]
      rfl
    rw [last, find?_text, Registry.enter, Value.find?_insert_text sound.keyed, lastUnder_concat]
    by_cases same : name = entry.1
    · simp [same]
    · rw [if_neg (Ne.symm same), if_neg same]
      exact ih front

/-! ## Rules without a converter -/

theorem blameConfig_ne_unknownConverter (error : Error) (asked : Value) (available : List Value) :
    blameConfig error ≠ .unknownConverter asked available := by
  unfold blameConfig
  split
  · nofun
  · next other =>
    rintro rfl
    exact other rfl

/-- A complaint about a name is about the rule's own one, which is not registered and can be
written. -/
theorem Sound.unknownConverter_of_loadRule {rule : Rule} {asked : Value} {available : List Value}
    (sound : registry.Sound)
    (failed : (registry.loadRule rule engine).result = .error (.unknownConverter asked available)) :
    asked = rule.convert ∧ registry.contains rule.convert = .ok false ∧
      rule.convert.isWritable = true := by
  obtain ⟨regex, convert⟩ := rule
  rw [loadRule, Traced.result_bind, Traced.result_ofExcept] at failed
  cases counted : lengthOf regex with
  | error error =>
    rw [counted] at failed
    cases regex <;> cases counted <;> cases failed
  | ok length =>
    rw [counted, ok_bind] at failed
    dsimp only at failed
    split at failed
    · cases failed
    · rw [Traced.result_bind, Traced.result_ofExcept] at failed
      cases looked : registry.find? convert with
      | error error =>
        rw [looked] at failed
        cases failed
        rw [find?, checkKey] at looked
        split at looked <;> cases looked
      | ok found =>
        rw [looked, ok_bind] at failed
        cases found with
        | none =>
          rw [Traced.result_fail, sound.unknownConverter_eq sound.listing_sorted,
            Error.showing] at failed
          split at failed
          · next writable =>
            cases failed
            exact ⟨rfl, contains_eq_false_iff.mpr looked, writable⟩
          · cases failed
        | some converter =>
          have callable := sound.find?_callable looked
          cases converter with
          | inert value => cases callable
          | _ =>
            obtain ⟨error, _, same⟩ := mapError_error_iff.mp failed
            exact absurd same (blameConfig_ne_unknownConverter _ _ _)

/-- A rule whose expression is not too long is refused for its name when that is not registered.
The complaint shows the name. -/
theorem Sound.loadRule_missing {rule : Rule} {length : Nat} (sound : registry.Sound)
    (counted : lengthOf rule.regex = .ok length) (short : length ≤ maxRegexLength)
    (missing : registry.contains rule.convert = .ok false) :
    ∃ available, (registry.loadRule rule engine).result =
      .error (.showing rule.convert (.unknownConverter rule.convert available)) := by
  refine ⟨(registry.textNames.mergeSort Text.atMost).map .text, ?_⟩
  rw [loadRule, Traced.result_bind, Traced.result_ofExcept, counted, ok_bind,
    if_neg (Nat.not_lt.mpr short), Traced.result_bind]
  rw [Traced.result_ofExcept, contains_eq_false_iff.mp missing, ok_bind]
  change Except.error (registry.unknownConverter rule.convert) = _
  rw [sound.unknownConverter_eq sound.listing_sorted]

section

variable {before after : List Rule} {rule : Rule} {length : Nat}

/-- Behind rules that can be loaded, such a rule stops the loading. -/
theorem Sound.load_unregistered (sound : registry.Sound)
    (few : (before ++ rule :: after).length ≤ maxRules)
    (accepted : registry.Accepts engine before) (counted : lengthOf rule.regex = .ok length)
    (short : length ≤ maxRegexLength) (missing : registry.contains rule.convert = .ok false) :
    ∃ available, (registry.load ⟨before ++ rule :: after⟩ engine).result =
      .error (.showing rule.convert (.unknownConverter rule.convert available)) := by
  obtain ⟨available, failed⟩ := sound.loadRule_missing counted short missing
  obtain ⟨lexer, loaded⟩ := accepted
  obtain ⟨_, branches, done, _⟩ := load_ok_iff.mp loaded
  refine ⟨available, ?_⟩
  rw [load_few few, map_error_iff, mapM_error_iff]
  exact ⟨before, rule, after, rfl, mapM_ok_iff.mp ⟨branches, done⟩, failed⟩

/-- Behind rules that can be loaded, a rule whose expression is not too long stops the loading
with a complaint about its name just when that is not registered and can be written. -/
theorem Sound.load_unknown_iff (sound : registry.Sound)
    (few : (before ++ rule :: after).length ≤ maxRules)
    (accepted : registry.Accepts engine before) (counted : lengthOf rule.regex = .ok length)
    (short : length ≤ maxRegexLength) :
    (∃ available, (registry.load ⟨before ++ rule :: after⟩ engine).result =
      .error (.unknownConverter rule.convert available)) ↔
      registry.contains rule.convert = .ok false ∧ rule.convert.isWritable = true := by
  constructor
  · -- The complaint may be that of a later rule, but then one with the same name.
    rintro ⟨available, stopped⟩
    rw [load_few few, map_error_iff, mapM_error_iff] at stopped
    obtain ⟨_, first, _, _, _, failed⟩ := stopped
    obtain ⟨same, missing⟩ := sound.unknownConverter_of_loadRule failed
    rw [same]
    exact missing
  · rintro ⟨missing, writable⟩
    obtain ⟨available, failed⟩ := sound.load_unregistered few accepted counted short missing
    rw [Error.showing_of_writable writable] at failed
    exact ⟨available, failed⟩

end

/-! ## What a registry reflects -/

/-- The registry reflects these registrations and no others. Its converter under a name is the
one that was registered last; its names are those that were registered, and are counted and
listed once each, in code point order; and rules are refused for the names that it lacks, with
another error in place of the complaint where such a name cannot be written. -/
structure Reflects (registry : Registry) (entries : List (Text × Value)) : Prop where
  last : ∀ earlier name converter later, entries = earlier ++ (name, converter) :: later →
    name ∉ later.map (·.1) → registry.find? (.text name) = .ok (some converter.toMapper)
  contains : ∀ name,
    registry.contains (.text name) = .ok (decide (name ∈ entries.map (·.1)))
  size : registry.size = (entries.map (·.1)).dedup.length
  names : ∃ names : List Text, registry.names = .ok (names.map .text) ∧
    names.Pairwise (· < ·) ∧ ∀ name, name ∈ names ↔ name ∈ entries.map (·.1)
  load : ∀ engine before rule after length, (before ++ rule :: after).length ≤ maxRules →
    registry.Accepts engine before → lengthOf rule.regex = .ok length →
    length ≤ maxRegexLength →
    ((∃ available, (registry.load ⟨before ++ rule :: after⟩ engine).result =
      .error (.unknownConverter rule.convert available)) ↔
        registry.contains rule.convert = .ok false ∧ rule.convert.isWritable = true)
  unwritten : ∀ engine before rule after length, (before ++ rule :: after).length ≤ maxRules →
    registry.Accepts engine before → lengthOf rule.regex = .ok length →
    length ≤ maxRegexLength → registry.contains rule.convert = .ok false →
    rule.convert.isWritable = false →
    (registry.load ⟨before ++ rule :: after⟩ engine).result = .error (.digitsOverLimit none)

theorem Sound.size_eq (sound : registry.Sound) : registry.size = registry.textNames.length := by
  have counted := congrArg List.length sound.keyed
  rwa [List.length_map, List.length_map] at counted

/-- Registering converters that can be called gives a registry that reflects the registrations. -/
theorem reflects_enterAll (callable : Callable entries) :
    (Registry.empty.enterAll (underTexts entries)).Reflects entries := by
  have sound := Built.empty.sound.enterAll callable
  have known (name : Text) :
      name ∈ (Registry.empty.enterAll (underTexts entries)).textNames ↔
        name ∈ entries.map (·.1) := by
    have none : name ∉ Registry.empty.textNames := List.not_mem_nil
    rw [Built.empty.sound.mem_textNames_enterAll callable, or_iff_right none]
  constructor
  case last =>
    rintro earlier name converter later rfl absent
    rw [find?_enterAll_empty callable, lastUnder_of_not_mem absent]
    rfl
  case contains =>
    intro name
    rw [sound.contains_text, decide_eq_decide.mpr (known name)]
  case size =>
    have same : (Registry.empty.enterAll (underTexts entries)).textNames.Perm
        (entries.map (·.1)).dedup :=
      (List.perm_ext_iff_of_nodup sound.distinct (List.nodup_dedup _)).mpr fun name =>
        (known name).trans List.mem_dedup.symm
    rw [sound.size_eq, same.length_eq]
  case names =>
    refine ⟨_, sound.names, ?_, fun name => ?_⟩
    · exact Text.increasing_mergeSort sound.distinct
    · rw [List.mem_mergeSort, known]
  case load =>
    intro engine before rule after length few accepted counted short
    exact sound.load_unknown_iff few accepted counted short
  case unwritten =>
    intro engine before rule after length few accepted counted short missing long
    obtain ⟨_, failed⟩ := sound.load_unregistered few accepted counted short missing
    rw [failed, Error.showing_of_unwritable long]

end Registry

end TokenLexer
