import TokenLexer.Proofs.Registry.Registering
import TokenLexer.Proofs.Session.Frame

/-!
# Builders and the registries they build

A builder holds what was registered in it successfully, and a registry what its builder held
when it was built. Nothing that a session does later changes a registry, be it another
registration in the same builder.

Main statements: `Session.contents_after` and `Session.built_registries_reflect_registrations`.
-/

namespace TokenLexer

theorem lookup_filter_ne {κ α : Type} [BEq κ] [LawfulBEq κ] {key other : κ} (differ : key ≠ other)
    (entries : List (κ × α)) :
    (entries.filter (·.1 != other)).lookup key = entries.lookup key := by
  induction entries with
  | nil => rfl
  | cons entry rest ih =>
    obtain ⟨first, value⟩ := entry
    by_cases dropped : first = other
    · subst dropped
      have missed : (key == first) = false := by simp [differ]
      simp [List.lookup_cons, missed, ih]
    · simp [dropped, List.lookup_cons, ih]

namespace Session

variable {α β : Type} {session : Session} {part : Run α} {value : α} {next : α → Run β}

/-- The part of a session gives this value. -/
def Gives (session : Session) (part : Run α) (value : α) : Prop :=
  (part.run.run session).1 = .ok value

theorem Keeps.run_ok (keeps : Keeps part) (gives : session.Gives part value) :
    part.run.run session = (.ok value, session) :=
  Prod.ext gives (keeps session)

theorem Keeps.bind_ok (keeps : Keeps part) (gives : session.Gives part value) :
    (part >>= next).run.run session = (next value).run.run session := by
  rw [run_bind, keeps.run_ok gives]

/-- A part that changes nothing fails, or goes on with its value. -/
theorem Keeps.bind_cases (keeps : Keeps part) (next : α → Run β) (session : Session) :
    (∃ fault, (part >>= next).run.run session = (.error fault, session)) ∨
      ∃ value, session.Gives part value ∧
        (part >>= next).run.run session = (next value).run.run session := by
  cases done : (part.run.run session).1 with
  | ok value => exact Or.inr ⟨value, done, keeps.bind_ok done⟩
  | error fault =>
    refine Or.inl ⟨fault, ?_⟩
    have ran : part.run.run session = (.error fault, session) := Prod.ext done (keeps session)
    rw [run_bind, ran]

/-- The register holds this value. -/
def Holds (session : Session) (register : String) (value : Value) : Prop :=
  ∃ held, session.Gives (read register) held ∧ held.value = value

/-- What is registered in the builder of this number. -/
def contents (session : Session) (serial : Nat) : Registry :=
  (session.builders.lookup serial).getD .empty

/-- The session with other contents of one builder. -/
def refill (session : Session) (serial : Nat) (registry : Registry) : Session :=
  { session with builders := (serial, registry) :: session.builders.filter (·.1 != serial) }

theorem contents_refill (session : Session) (serial other : Nat) (registry : Registry) :
    (session.refill serial registry).contents other =
      if other = serial then registry else session.contents other := by
  unfold contents refill
  rw [List.lookup_cons]
  by_cases same : other = serial
  · simp [same]
  · rw [beq_false_of_ne same, if_neg same]
    exact congrArg (·.getD Registry.empty) (lookup_filter_ne same _)

theorem builderIn_keeps (register name : String) : Keeps (builderIn register name) := by
  have leaves : Leaves id (builderIn register name) := builderIn_leaves register name
  exact leaves

theorem builderIn_contents {register name : String} {builder : Nat × Registry}
    (gives : session.Gives (builderIn register name) builder) :
    builder.2 = session.contents builder.1 := by
  unfold Gives builderIn at gives
  rcases (read_keeps register).bind_cases _ session with ⟨fault, failed⟩ | ⟨held, found, ran⟩
  · rw [failed] at gives
    cases gives
  · rw [ran] at gives
    split at gives
    · cases gives
      rfl
    · cases gives

theorem builderIn_gives {receiver : String} {serial : Nat}
    (holds : session.Holds receiver (.builder serial)) (name : String) :
    session.Gives (builderIn receiver name) (serial, session.contents serial) := by
  obtain ⟨held, found, same⟩ := holds
  unfold Gives builderIn
  rw [(read_keeps receiver).bind_ok found, same]
  rfl

/-! ## Registrations -/

/-- What a step asks to be registered, and in which builder. -/
def registration : Step → Run (Option (Nat × List (Value × Value)))
  | .ask (.register receiver name converter) => do
    let builder ← builderIn receiver "converter"
    let name ← name.value
    let converter ← converter.value
    return some (builder.1, [(name, converter)])
  | .ask (.registerCore receiver) => do
    let builder ← builderIn receiver "converter"
    return some (builder.1, Registry.coreEntries)
  | _ => return none

/-- What the step registers in the builder. A step that fails registers nothing. -/
def registered (serial : Nat) (session : Session) (step : Step) : List (Value × Value) :=
  match ((Session.step step).run.run session).1, ((registration step).run.run session).1 with
  | .ok _, .ok (some (builder, entries)) => if builder = serial then entries else []
  | _, _ => []

/-- What the steps register in the builder, in order. -/
def registeredAll (serial : Nat) : Session → List Step → List (Value × Value)
  | _, [] => []
  | session, first :: rest =>
    session.registered serial first ++
      registeredAll serial ((step first).run.run session).2 rest

/-- How a registration with arguments that are there goes. -/
theorem ask_register_run {receiver : String} {name converter : Argument}
    {builder : Nat × Registry} {key value : Value}
    (found : session.Gives (builderIn receiver "converter") builder)
    (named : session.Gives name.value key) (given : session.Gives converter.value value) :
    (ask (.register receiver name converter)).run.run session =
      match builder.2.register key value with
      | .ok next => (.ok .done, session.refill builder.1 next)
      | .error error => (.error (.raised error), session) := by
  unfold ask
  rw [(builderIn_keeps receiver "converter").bind_ok found]
  dsimp only
  rw [name.value_keeps.bind_ok named, converter.value_keeps.bind_ok given]
  cases builder.2.register key value <;> rfl

/-- How a registration goes: it fails and changes nothing, or the builder holds it afterwards. -/
theorem ask_register_cases (session : Session) (receiver : String) (name converter : Argument) :
    (∃ fault, (ask (.register receiver name converter)).run.run session =
      (.error fault, session)) ∨
    ∃ serial key value,
      session.Gives (registration (.ask (.register receiver name converter)))
        (some (serial, [(key, value)])) ∧
      value.isCallable = true ∧
      (ask (.register receiver name converter)).run.run session =
        (.ok .done, session.refill serial ((session.contents serial).enter key value)) := by
  rcases (builderIn_keeps receiver "converter").bind_cases _ session with
    ⟨fault, failed⟩ | ⟨builder, found, first⟩
  · exact Or.inl ⟨fault, failed⟩
  rcases name.value_keeps.bind_cases _ session with ⟨fault, failed⟩ | ⟨key, named, second⟩
  · exact Or.inl ⟨fault, first.trans failed⟩
  rcases converter.value_keeps.bind_cases _ session with ⟨fault, failed⟩ | ⟨value, given, _⟩
  · exact Or.inl ⟨fault, first.trans (second.trans failed)⟩
  rw [ask_register_run found named given]
  cases entered : builder.2.register key value with
  | error error => exact Or.inl ⟨.raised error, rfl⟩
  | ok next =>
    obtain ⟨callable, _, rfl⟩ := Registry.register_ok_iff.mp entered
    refine Or.inr ⟨builder.1, key, value, ?_, callable, ?_⟩
    · unfold Gives registration
      rw [(builderIn_keeps receiver "converter").bind_ok found, name.value_keeps.bind_ok named,
        converter.value_keeps.bind_ok given]
      rfl
    · rw [← builderIn_contents found]

theorem ask_registerCore_run {receiver : String} {builder : Nat × Registry}
    (found : session.Gives (builderIn receiver "converter") builder) :
    (ask (.registerCore receiver)).run.run session =
      (.ok .done, session.refill builder.1 (builder.2.enterAll Registry.coreEntries)) := by
  unfold ask
  rw [(builderIn_keeps receiver "converter").bind_ok found]
  dsimp only
  rw [Registry.registerCore_eq]
  rfl

theorem ask_registerCore_cases (session : Session) (receiver : String) :
    (∃ fault, (ask (.registerCore receiver)).run.run session = (.error fault, session)) ∨
    ∃ serial,
      session.Gives (registration (.ask (.registerCore receiver)))
        (some (serial, Registry.coreEntries)) ∧
      (ask (.registerCore receiver)).run.run session =
        (.ok .done,
          session.refill serial ((session.contents serial).enterAll Registry.coreEntries)) := by
  rcases (builderIn_keeps receiver "converter").bind_cases _ session with
    ⟨fault, failed⟩ | ⟨builder, found, _⟩
  · exact Or.inl ⟨fault, failed⟩
  refine Or.inr ⟨builder.1, ?_, ?_⟩
  · unfold Gives registration
    rw [(builderIn_keeps receiver "converter").bind_ok found]
    rfl
  · rw [ask_registerCore_run found, ← builderIn_contents found]

/-- How a step that registers converters goes: it fails and changes nothing, or the builder
holds them afterwards, and nothing else has changed. -/
theorem registration_cases (session : Session) {step : Step}
    (registers : step.isRegistration = true) :
    (∃ fault, (Session.step step).run.run session = (.error fault, session)) ∨
    ∃ serial entries, session.Gives (registration step) (some (serial, entries)) ∧
      (∀ entry ∈ entries, entry.2.isCallable = true) ∧
      (Session.step step).run.run session =
        (.ok .done, session.refill serial ((session.contents serial).enterAll entries)) := by
  cases step with
  | make target making => cases registers
  | ask query =>
    cases query with
    | register receiver name converter =>
      rcases ask_register_cases session receiver name converter with
        failed | ⟨serial, key, value, asked, callable, ran⟩
      · exact Or.inl failed
      · exact Or.inr ⟨serial, [(key, value)], asked, List.forall_mem_singleton.mpr callable, ran⟩
    | registerCore receiver =>
      rcases ask_registerCore_cases session receiver with failed | ⟨serial, asked, ran⟩
      · exact Or.inl failed
      · exact Or.inr ⟨serial, Registry.coreEntries, asked, by decide, ran⟩
    | _ => cases registers

theorem registered_of_not {step : Step} (other : step.isRegistration = false) (serial : Nat) :
    session.registered serial step = [] := by
  have none : registration step = pure none := by
    cases step with
    | make target making => rfl
    | ask query =>
      cases query with
      | register | registerCore => cases other
      | _ => rfl
  unfold registered
  rw [none]
  split
  · next asked =>
    cases asked
  · rfl

theorem registered_of_error {step : Step} {fault : Fault} {later : Session}
    (failed : (Session.step step).run.run session = (.error fault, later)) (serial : Nat) :
    session.registered serial step = [] := by
  unfold registered
  rw [failed]

theorem registered_of_ok {step : Step} {answer : Response} {later : Session} {builder : Nat}
    {entries : List (Value × Value)}
    (done : (Session.step step).run.run session = (.ok answer, later))
    (asked : session.Gives (registration step) (some (builder, entries))) (serial : Nat) :
    session.registered serial step = if builder = serial then entries else [] := by
  unfold registered
  rw [done, asked]

theorem registered_callable {serial : Nat} {step : Step} {entry : Value × Value}
    (member : entry ∈ session.registered serial step) : entry.2.isCallable = true := by
  cases registers : step.isRegistration with
  | false =>
    rw [registered_of_not registers] at member
    cases member
  | true =>
    rcases registration_cases session registers with
      ⟨fault, failed⟩ | ⟨builder, entries, asked, callable, done⟩
    · rw [registered_of_error failed] at member
      cases member
    · rw [registered_of_ok done asked] at member
      split at member
      · exact callable entry member
      · cases member

theorem contents_blind (serial : Nat) : Blind fun session => session.contents serial where
  next _ _ := rfl
  probes _ _ := rfl
  notes _ _ := rfl

/-- A step changes a builder by what it registers there. -/
theorem step_contents (session : Session) (step : Step) (serial : Nat) :
    ((Session.step step).run.run session).2.contents serial =
      (session.contents serial).enterAll (session.registered serial step) := by
  cases registers : step.isRegistration with
  | false =>
    rw [registered_of_not registers]
    refine step_leaves (contents_blind serial) step (fun _ _ _ _ => rfl) (fun is => ?_) session
    rw [registers] at is
    cases is
  | true =>
    rcases registration_cases session registers with
      ⟨fault, failed⟩ | ⟨builder, entries, asked, _, done⟩
    · rw [registered_of_error failed, failed]
      rfl
    · rw [registered_of_ok done asked, done, contents_refill]
      by_cases same : builder = serial
      · subst same
        rw [if_pos rfl, if_pos rfl]
      · rw [if_neg same, if_neg (Ne.symm same)]
        rfl

/-- After any steps a builder holds what they registered in it, in order. -/
theorem contents_after (session : Session) (steps : List Step) (serial : Nat) :
    (session.after steps).contents serial =
      (session.contents serial).enterAll (registeredAll serial session steps) := by
  induction steps generalizing session with
  | nil => rfl
  | cons step rest ih =>
    rw [after, ih, step_contents, registeredAll, Registry.enterAll_append]

theorem registeredAll_callable {serial : Nat} {steps : List Step} {entry : Value × Value}
    (member : entry ∈ registeredAll serial session steps) : entry.2.isCallable = true := by
  induction steps generalizing session with
  | nil => cases member
  | cons step rest ih =>
    rcases List.mem_append.mp member with first | later
    · exact registered_callable first
    · exact ih later

theorem callable_of_registeredAll {serial : Nat} {steps : List Step}
    {entries : List (Text × Value)}
    (texts : registeredAll serial session steps = Registry.underTexts entries) :
    Registry.Callable entries := by
  intro entry member
  have among : ((.text entry.1, entry.2) : Value × Value) ∈ Registry.underTexts entries :=
    List.mem_map_of_mem member
  rw [← texts] at among
  exact registeredAll_callable among

/-! ## Registers that are kept -/

theorem after_append (session : Session) (steps others : List Step) :
    session.after (steps ++ others) = (session.after steps).after others := by
  induction steps generalizing session with
  | nil => rfl
  | cons step rest ih => exact ih _

/-- Steps that store elsewhere leave a register as it was. -/
theorem lookup_after {target : String} {steps : List Step}
    (elsewhere : ∀ step ∈ steps, step.target? ≠ some target) (session : Session) :
    (session.after steps).registers.lookup target = session.registers.lookup target := by
  induction steps generalizing session with
  | nil => rfl
  | cons step rest ih =>
    obtain ⟨first, others⟩ := List.forall_mem_cons.mp elsewhere
    have blind : Blind fun session => session.registers.lookup target :=
      ⟨fun _ _ => rfl, fun _ _ => rfl, fun _ _ => rfl⟩
    have kept : Leaves (fun session => session.registers.lookup target) (Session.step step) := by
      refine step_leaves blind step (fun other stored held later => ?_) fun _ _ _ _ => rfl
      have differ : target ≠ other := by
        rintro rfl
        exact first stored
      change List.lookup target ((other, held) :: later.registers.filter (·.1 != other)) = _
      rw [List.lookup_cons, beq_false_of_ne differ]
      exact lookup_filter_ne differ _
    exact (ih others _).trans (kept session)

theorem gives_read_iff {register : String} {held : Held} :
    session.Gives (read register) held ↔ ∃ stored,
      session.registers.lookup register = some stored ∧ stored.upToDate session.probes = held := by
  have looked : Keeps (get : Run Session) := fun _ => rfl
  have same : session.Gives (get : Run Session) session := rfl
  unfold Gives read
  rw [looked.bind_ok same]
  cases session.registers.lookup register with
  | none => exact ⟨nofun, nofun⟩
  | some stored => exact ⟨fun gives => ⟨stored, rfl, Except.ok.inj gives⟩,
      fun ⟨_, found, current⟩ => Option.some.inj found ▸ congrArg Except.ok current⟩

/-- What a register holds that is no growing list. -/
theorem holds_of_lookup {register : String} {held : Held}
    (found : session.registers.lookup register = some held) (fixed : held.growing = none) :
    session.Holds register held.value := by
  have current : held.upToDate session.probes = held := by
    unfold Held.upToDate
    rw [fixed]
  exact ⟨held, gives_read_iff.mpr ⟨held, found, current⟩, rfl⟩

/-- A lexer is no growing list, so the register gives the same object whatever the probes hold. -/
theorem Holds.lexer {register : String} {lexer : Lexer Value}
    (holds : session.Holds register (.lexer lexer)) :
    ∃ held, held.value = .lexer lexer ∧
      ∀ probes, ({ session with probes } : Session).Gives (read register) held := by
  obtain ⟨held, gives, same⟩ := holds
  obtain ⟨stored, found, rfl⟩ := gives_read_iff.mp gives
  refine ⟨_, same, fun probes => gives_read_iff.mpr ⟨stored, found, ?_⟩⟩
  cases growing : stored.growing with
  | none => rw [Held.upToDate, Held.upToDate, growing]
  | some list =>
    rw [Held.upToDate, growing] at same
    cases list <;> cases same

/-- Building stores a registry of what the builder holds. -/
theorem step_build {receiver : String} {serial : Nat}
    (holds : session.Holds receiver (.builder serial)) (target : String) :
    ∃ held, ((step (.make target (.build receiver))).run.run session).2.registers.lookup target =
        some held ∧
      held.value = .registry (session.contents serial).converters ∧ held.growing = none := by
  let held : Held :=
    ⟨.registry (session.contents serial).converters, .unique session.next [], none⟩
  have built : (make (.build receiver)).run.run session =
      (.ok held, { session with next := session.next + 1 }) := by
    unfold make
    rw [(builderIn_keeps receiver "build").bind_ok (builderIn_gives holds "build")]
    rfl
  refine ⟨held, ?_, rfl, rfl⟩
  unfold step
  rw [run_bind, built]
  exact List.lookup_cons_self

/-! ## Registries that were built -/

/-- A registry that is built from a builder holds what was registered there before. -/
theorem holds_after_build {serial : Nat} {before after : List Step} {receiver target : String}
    (empty : session.contents serial = .empty)
    (holds : (session.after before).Holds receiver (.builder serial))
    (elsewhere : ∀ step ∈ after, step.target? ≠ some target) :
    (session.after (before ++ .make target (.build receiver) :: after)).Holds target
      (.registry (Registry.empty.enterAll (registeredAll serial session before)).converters) := by
  obtain ⟨held, stored, value, fixed⟩ := step_build holds target
  rw [contents_after, empty] at value
  rw [← value]
  refine holds_of_lookup ?_ fixed
  rw [after_append, Session.after, lookup_after elsewhere]
  exact stored

/-- Registering a converter that cannot be called raises a type error, or fails to write the name
into the message, and changes nothing at all;
registering one that can be called under a text succeeds, and so does registering those that
need no setting up. A registry that is built from a builder reflects what was registered there
successfully until then, whatever the steps were, and whatever steps come behind, as long as
they leave its register alone. -/
theorem built_registries_reflect_registrations (session : Session) :
    (∀ receiver serial name converter key value, session.Holds receiver (.builder serial) →
      session.Gives (Argument.value name) key → session.Gives (Argument.value converter) value →
      (value.isCallable = false →
        (step (.ask (.register receiver name converter))).run.run session =
            (.error (.raised (.showing key (.converterNotCallable key value.typeName))),
              session) ∧
          (key.isWritable = true →
            (Error.showing key (.converterNotCallable key value.typeName)).kind = .type)) ∧
      (∀ text, key = .text text → value.isCallable = true →
        session.Gives (step (.ask (.register receiver name converter))) .done)) ∧
    (∀ receiver serial, session.Holds receiver (.builder serial) →
      session.Gives (step (.ask (.registerCore receiver))) .done) ∧
    ∀ serial before receiver target after entries, session.contents serial = .empty →
      registeredAll serial session before = Registry.underTexts entries →
      (session.after before).Holds receiver (.builder serial) →
      (∀ step ∈ after, step.target? ≠ some target) →
      ∃ registry : Registry, registry.Reflects entries ∧
        (session.after (before ++ .make target (.build receiver) :: after)).Holds target
          (.registry registry.converters) := by
  refine ⟨?_, ?_, ?_⟩
  · intro receiver serial name converter key value holds named given
    have ran := ask_register_run (builderIn_gives holds "converter") named given
    refine ⟨fun refused => ?_, ?_⟩
    · rw [Registry.register_refused refused] at ran
      refine ⟨ran, fun writable => ?_⟩
      rw [Error.showing_of_writable writable]
      rfl
    · rintro text rfl callable
      have entered : (session.contents serial).register (.text text) value = .ok _ :=
        Registry.register_ok_iff.mpr ⟨callable, rfl, rfl⟩
      rw [entered] at ran
      exact congrArg Prod.fst ran
  · intro receiver serial holds
    exact congrArg Prod.fst (ask_registerCore_run (builderIn_gives holds "converter"))
  · intro serial before receiver target after entries empty texts holds elsewhere
    refine ⟨_, Registry.reflects_enterAll (callable_of_registeredAll texts), ?_⟩
    rw [← texts]
    exact holds_after_build empty holds elsewhere

/-- A builder in which one name is registered twice, and once in between with a converter that
cannot be called. -/
def twiceRegistered : List Step :=
  [.make "builder" .builder,
    .ask (.register "builder" (.text [0x61]) (.function .str)),
    .ask (.register "builder" (.text [0x61]) .none),
    .ask (.register "builder" (.text [0x61]) (.function .int))]

theorem registry_reflects_last_registration :
    ({} : Session).contents 0 = .empty ∧
      registeredAll 0 {} twiceRegistered = Registry.underTexts
        [([0x61], .mapper (.function .str)), ([0x61], .mapper (.function .int))] ∧
      (∃ registry : Registry,
        (({} : Session).after (twiceRegistered ++ .make "built" (.build "builder") ::
            [.ask (.register "builder" (.text [0x62]) (.function .str))])).Holds "built"
          (.registry registry.converters) ∧
        registry.find? (.text [0x61]) = .ok (some (.function .int)) ∧
        registry.contains (.text [0x62]) = .ok false ∧ registry.size = 1) ∧
      (step (.ask (.register "builder" (.text [0x61]) .none))).run.run
          (({} : Session).after twiceRegistered) =
        (.error (.raised (.converterNotCallable (.text [0x61]) "NoneType")),
          ({} : Session).after twiceRegistered) := by
  have empty : ({} : Session).contents 0 = .empty := rfl
  have texts : registeredAll 0 {} twiceRegistered = Registry.underTexts
      [([0x61], .mapper (.function .str)), ([0x61], .mapper (.function .int))] := by
    rfl
  have holds : (({} : Session).after twiceRegistered).Holds "builder" (.builder 0) :=
    ⟨_, rfl, rfl⟩
  obtain ⟨rejects, _, _⟩ :=
    built_registries_reflect_registrations (({} : Session).after twiceRegistered)
  obtain ⟨registry, reflects, stored⟩ := (built_registries_reflect_registrations {}).2.2 0
    twiceRegistered "builder" "built" [.ask (.register "builder" (.text [0x62]) (.function .str))]
    _ empty texts holds (by simp [Step.target?])
  refine ⟨empty, texts, ⟨registry, stored, ?_, reflects.contains _, reflects.size⟩, ?_⟩
  · exact reflects.last [([0x61], .mapper (.function .str))] _ _ [] rfl List.not_mem_nil
  · exact ((rejects "builder" 0 (.text [0x61]) .none _ _ holds rfl rfl).1 rfl).1

end Session

end TokenLexer
