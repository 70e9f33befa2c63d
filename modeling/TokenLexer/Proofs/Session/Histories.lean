import TokenLexer.Proofs.Session.Equality

/-!
# Histories of registrations

A registry keeps its names in the order in which they came first, and the converter that a name
had last in the place of the first one. No question that can be asked of a registry shows this
order: names are looked up, counted or sorted. So histories of registrations that end in the same
converters build registries that cannot be told apart.

Main statements: `Registry.Sound.indistinguishable` and `Registry.history_unobservable`.
-/

namespace TokenLexer

theorem Mapper.same_self {mapper : Mapper Value} (alike : Nat → Nat → Bool)
    (callable : (Value.mapper mapper).isCallable = true) : mapper.same alike mapper = true := by
  cases mapper with
  | function f => simp [Mapper.same]
  | counter probe inner => simp [Mapper.same]
  | inert value => cases callable

namespace Registry

variable {registry other : Registry} {engine : Engine} {config : Config} {lexer : Lexer Value}
  {entries others : List (Text × Value)}

/-! ## Registries that cannot be told apart -/

/-- The registries have as many names, contain and list the same ones, and load every
configuration alike: with the same notes, and into equal lexers or the same error. -/
structure Indistinguishable (registry other : Registry) : Prop where
  size : registry.size = other.size
  contains : ∀ name, registry.contains name = other.contains name
  names : registry.names = other.names
  load : ∀ config engine, registry.load config engine = other.load config engine
  equal : ∀ config engine lexer loaded alike,
    (registry.load config engine).result = .ok lexer →
    (other.load config engine).result = .ok loaded → lexer.same alike loaded = true

theorem unknownConverter_congr (names : registry.names = other.names) (name : Value) :
    registry.unknownConverter name = other.unknownConverter name := by
  rw [unknownConverter, unknownConverter, names]

theorem loadRule_congr (found : ∀ name, registry.find? name = other.find? name)
    (names : registry.names = other.names) (rule : Rule) (engine : Engine) :
    registry.loadRule rule engine = other.loadRule rule engine := by
  rw [loadRule, loadRule, found, unknownConverter_congr names]

theorem loadOnto_congr (found : ∀ name, registry.find? name = other.find? name)
    (names : registry.names = other.names) (engine : Engine) (lexer : Option (Lexer Value))
    (rules : List Rule) :
    registry.loadOnto engine lexer rules = other.loadOnto engine lexer rules := by
  induction rules generalizing lexer with
  | nil => rfl
  | cons rule rest ih =>
    rw [loadOnto, loadOnto, loadRule_congr found names]
    exact congrArg _ (funext fun branch => ih _)

/-- Loading looks names up, and lists them where one is missing. -/
theorem load_congr (found : ∀ name, registry.find? name = other.find? name)
    (names : registry.names = other.names) (config : Config) (engine : Engine) :
    registry.load config engine = other.load config engine := by
  rw [load, load, loadOnto_congr found names]

/-- A loaded lexer equals itself, as the mappers in it can be called. -/
theorem load_same_self (alike : Nat → Nat → Bool)
    (loaded : (registry.load config engine).result = .ok lexer) :
    lexer.same alike lexer = true := by
  refine @load_induction engine registry config.rules lexer
    (fun lexer => lexer.same alike lexer = true) ?_ (fun front back => ?_) ?_ loaded
  · simp [Lexer.same]
  · simp [Lexer.same, front, back]
  · rintro _ _ ⟨_, _, _, _, callable⟩
    simp [Lexer.same, Pattern.same_refl, Mapper.same_self alike callable]

theorem Sound.find?_congr (sound : registry.Sound) (others : other.Sound)
    (same : ∀ name : Text, registry.find? (.text name) = other.find? (.text name)) (key : Value) :
    registry.find? key = other.find? key := by
  by_cases textual : ∃ name, key = .text name
  · obtain ⟨name, rfl⟩ := textual
    exact same name
  · have different := not_exists.mp textual
    rw [find?, find?, Value.find?_not_text sound.keyed different,
      Value.find?_not_text others.keyed different]

/-- Registries with the same converter under each name cannot be told apart. -/
theorem Sound.indistinguishable (sound : registry.Sound) (others : other.Sound)
    (same : ∀ name : Text, registry.find? (.text name) = other.find? (.text name)) :
    registry.Indistinguishable other := by
  have found := sound.find?_congr others same
  have contains (name : Value) : registry.contains name = other.contains name := by
    rw [Registry.contains, Registry.contains, found]
  have shuffled : registry.textNames.Perm other.textNames :=
    (List.perm_ext_iff_of_nodup sound.distinct others.distinct).mpr fun name => by
      rw [sound.mem_textNames_iff, others.mem_textNames_iff, contains]
  have names : registry.names = other.names := by
    rw [sound.names, others.names, Text.mergeSort_congr shuffled]
  have load := load_congr found names
  refine ⟨?_, contains, names, load, ?_⟩
  · rw [sound.size_eq, others.size_eq, shuffled.length_eq]
  · intro config engine lexer loaded alike first second
    rw [load, second] at first
    cases first
    exact load_same_self alike second

/-! ## Histories -/

/-- Registers one converter after another. The first failure ends it. -/
def registerAll (registry : Registry) (entries : List (Text × Value)) : Except Error Registry :=
  entries.foldlM (fun registry entry => registry.register (.text entry.1) entry.2) registry

theorem registerAll_eq (registry : Registry) (callable : Callable entries) :
    registry.registerAll entries = .ok (registry.enterAll (underTexts entries)) := by
  induction entries generalizing registry with
  | nil => rfl
  | cons entry rest ih =>
    obtain ⟨first, others⟩ := List.forall_mem_cons.mp callable
    have entered : registry.register (.text entry.1) entry.2 = .ok _ :=
      register_ok_iff.mpr ⟨first, rfl, rfl⟩
    rw [registerAll, List.foldlM_cons, entered]
    exact ih _ others

/-- Histories that end in the same converters build registries that cannot be told apart. -/
theorem indistinguishable_enterAll (callable : Callable entries) (callables : Callable others)
    (same : ∀ name, lastUnder name entries = lastUnder name others) :
    (Registry.empty.enterAll (underTexts entries)).Indistinguishable
      (Registry.empty.enterAll (underTexts others)) := by
  refine (Built.empty.sound.enterAll callable).indistinguishable
    (Built.empty.sound.enterAll callables) fun name => ?_
  rw [find?_enterAll_empty callable, find?_enterAll_empty callables, same]

end Registry

/-- The register holds a registry from a builder in which a session had registered these
converters, whatever else the session did, before or behind. -/
inductive Session.BuiltFrom (entries : List (Text × Value)) : Session → String → Prop
  | mk {session : Session} {serial : Nat} {before after : List Step} {receiver target : String}
      (empty : session.contents serial = .empty)
      (registered : registeredAll serial session before = Registry.underTexts entries)
      (holds : (session.after before).Holds receiver (.builder serial))
      (elsewhere : ∀ step ∈ after, step.target? ≠ some target) :
      BuiltFrom entries (session.after (before ++ .make target (.build receiver) :: after)) target

namespace Registry

/-- Of a history of registrations only the last converter under each name shows, neither in which
order the names came nor what was overwritten. This holds of registries that are built by
registering one converter after another, and of those that sessions build among other steps. -/
theorem history_unobservable {entries others : List (Text × Value)}
    (same : ∀ name, lastUnder name entries = lastUnder name others) :
    (Callable entries → Callable others → ∃ registry other,
      Registry.empty.registerAll entries = .ok registry ∧
        Registry.empty.registerAll others = .ok other ∧ registry.Indistinguishable other) ∧
    ∀ session twin target stored, Session.BuiltFrom entries session target →
      Session.BuiltFrom others twin stored → ∃ registry other : Registry,
        session.Holds target (.registry registry.converters) ∧
          twin.Holds stored (.registry other.converters) ∧ registry.Indistinguishable other := by
  constructor
  · intro callable callables
    exact ⟨_, _, registerAll_eq _ callable, registerAll_eq _ callables,
      indistinguishable_enterAll callable callables same⟩
  · rintro _ _ _ _ ⟨empty, registered, holds, elsewhere⟩ ⟨bare, entered, held, aside⟩
    have built := Session.holds_after_build empty holds elsewhere
    have another := Session.holds_after_build bare held aside
    rw [registered] at built
    rw [entered] at another
    exact ⟨_, _, built, another, indistinguishable_enterAll
      (Session.callable_of_registeredAll registered) (Session.callable_of_registeredAll entered)
      same⟩

/-- Three registrations, of which the last one takes the place of the first. -/
def overwriting : List (Text × Value) :=
  [([0x62], .mapper (.function .str)), ([0x61], .mapper (.function .int)),
    ([0x62], .mapper (.function .lower))]

/-- What is left of them, in the order of the names. -/
def leftOver : List (Text × Value) :=
  [([0x61], .mapper (.function .int)), ([0x62], .mapper (.function .lower))]

/-- The steps that register these converters in a new builder. One more cannot be called. -/
def overwritingSteps : List Session.Step :=
  [.make "builder" .builder, .ask (.register "builder" (.text [0x62]) (.function .str)),
    .ask (.register "builder" (.text [0x61]) (.function .int)),
    .ask (.register "builder" (.text [0x61]) .none),
    .ask (.register "builder" (.text [0x62]) (.function .lower))]

/-- The steps that register what is left over. -/
def leftOverSteps : List Session.Step :=
  [.make "builder" .builder, .ask (.register "builder" (.text [0x61]) (.function .int)),
    .ask (.register "builder" (.text [0x62]) (.function .lower))]

theorem overwriting_unobservable :
    (∃ registry other, Registry.empty.registerAll overwriting = .ok registry ∧
      Registry.empty.registerAll leftOver = .ok other ∧ registry.keys ≠ other.keys ∧
      registry.Indistinguishable other ∧
      (registry.load ⟨[⟨.text [0x28, 0x29], .text [0x63]⟩]⟩).result =
        .error (.unknownConverter (.text [0x63]) [.text [0x61], .text [0x62]])) ∧
    ∃ registry other : Registry,
      (({} : Session).after (overwritingSteps ++ [.make "built" (.build "builder")])).Holds "built"
        (.registry registry.converters) ∧
      (({} : Session).after (leftOverSteps ++ [.make "built" (.build "builder")])).Holds "built"
        (.registry other.converters) ∧
      registry.Indistinguishable other := by
  have same (name : Text) : lastUnder name overwriting = lastUnder name leftOver := by
    cases first : name == [0x62] <;>
      simp [lastUnder, overwriting, leftOver, List.lookup_cons, first]
  obtain ⟨chains, sessions⟩ := history_unobservable same
  constructor
  · have callable : Callable overwriting := by simp [Callable, overwriting, Value.isCallable]
    have callables : Callable leftOver := by simp [Callable, leftOver, Value.isCallable]
    obtain ⟨registry, other, built, another, alike⟩ := chains callable callables
    have old : registry.keys = [.text [0x62], .text [0x61]] := by
      cases built
      cbv
    have new : other.keys = [.text [0x61], .text [0x62]] := by
      cases another
      cbv
    refine ⟨registry, other, built, another, by simp [old, new], alike, ?_⟩
    rw [alike.load]
    cases another
    cbv
  · exact sessions _ _ _ _ (@Session.BuiltFrom.mk _ {} 0 overwritingSteps [] _ _ rfl rfl
      ⟨_, rfl, rfl⟩ (List.forall_mem_nil _)) (@Session.BuiltFrom.mk _ {} 0 leftOverSteps [] _ _ rfl
      rfl ⟨_, rfl, rfl⟩ (List.forall_mem_nil _))

end Registry

end TokenLexer
