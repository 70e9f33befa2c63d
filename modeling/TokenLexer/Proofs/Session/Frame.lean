import TokenLexer.Proofs.Session.Matching

/-!
# What steps leave alone

Making, asking and matching use up numbers, add notes and let the probes observe. A register
changes only by a step that stores in it, and a builder only by a step that registers
converters. Both follow from one law about views of a session that do not look at its numbers,
probes and notes.

Main statement: `Session.step_leaves`.
-/

namespace TokenLexer

namespace Session

variable {α β γ : Type} {view : Session → γ}

/-- The part of a session leaves the view of it as it was, whether it fails or not. -/
def Leaves (view : Session → γ) (part : Run α) : Prop :=
  ∀ session, view (part.run.run session).2 = view session

theorem Keeps.leaves {part : Run α} (keeps : Keeps part) : Leaves view part :=
  fun session => congrArg view (keeps session)

theorem Leaves.pure (value : α) : Leaves view (Pure.pure value : Run α) := fun _ => rfl

theorem Leaves.bind {part : Run α} {next : α → Run β} (leaves : Leaves view part)
    (each : ∀ value, Leaves view (next value)) : Leaves view (part >>= next) := by
  intro session
  have same := leaves session
  rw [run_bind]
  split
  · next value later done =>
    rw [done] at same
    exact (each value later).trans same
  · next fault later failed =>
    rw [failed] at same
    exact same

theorem Leaves.mapM {part : α → Run β} (each : ∀ x, Leaves view (part x)) (list : List α) :
    Leaves view (list.mapM part) := by
  induction list with
  | nil => exact .pure _
  | cons head tail ih =>
    rw [List.mapM_cons]
    exact (each head).bind fun _ => ih.bind fun _ => .pure _

theorem raise_leaves (error : Error) : Leaves view (raise error : Run α) := fun _ => rfl

theorem get_leaves : Leaves view (get : Run Session) := fun _ => rfl

theorem ofExcept_leaves (result : Except Error α) : Leaves view (ofExcept result) := by
  cases result <;> exact fun _ => rfl

theorem read_leaves (register : String) : Leaves view (read register) :=
  (read_keeps register).leaves

theorem value_leaves (argument : Argument) : Leaves view argument.value :=
  argument.value_keeps.leaves

theorem entryOf_leaves (entry : Text × Entry) : Leaves view (entryOf entry) := by
  obtain ⟨text, entry⟩ := entry
  cases entry with
  | group argument => exact (value_leaves argument).bind fun _ => .pure _
  | _ => exact .pure _

theorem lexerIn_leaves (register name : String) : Leaves view (lexerIn register name) := by
  refine (read_leaves register).bind fun held => ?_
  split
  · exact .pure _
  · exact raise_leaves _

theorem registryIn_leaves (register name : String) : Leaves view (registryIn register name) := by
  refine (read_leaves register).bind fun held => ?_
  split
  · exact .pure _
  · exact raise_leaves _

theorem builderIn_leaves (register name : String) : Leaves view (builderIn register name) := by
  refine (read_leaves register).bind fun held => ?_
  split
  · exact get_leaves.bind fun _ => .pure _
  · exact raise_leaves _

theorem refuseChange_leaves (owner : Value) (field : String) (frozen : Error) :
    Leaves view (refuseChange owner field frozen : Run α) := by
  unfold refuseChange
  split <;> exact raise_leaves _

theorem run_tryCatch (part : Run α) (handle : Fault → Run α) (session : Session) :
    (tryCatch part handle).run.run session =
      match part.run.run session with
      | (.ok value, later) => (.ok value, later)
      | (.error fault, later) => (handle fault).run.run later := by
  simp only [tryCatch, tryCatchThe, MonadExceptOf.tryCatch, ExceptT.tryCatch, ExceptT.run_mk,
    StateT.run_bind]
  rcases done : part.run.run session with ⟨fault | value, later⟩ <;>
  · rw [ExceptT.run] at done
    rw [done]
    rfl

theorem caught_leaves {part : Run α} (leaves : Leaves view part) : Leaves view (caught part) := by
  intro session
  have answered : Leaves view (part >>= fun value => Pure.pure (Except.ok value) :
      Run (Except Fault α)) := leaves.bind fun _ => .pure _
  have same := answered session
  rw [caught, run_tryCatch]
  split <;> next done =>
    rw [done] at same
    exact same

/-! ## Views that look at neither numbers, probes nor notes -/

/-- The view sees nothing of the numbers, the probes and the notes. -/
structure Blind (view : Session → γ) : Prop where
  next : ∀ session next, view { session with next } = view session
  probes : ∀ session probes, view { session with probes } = view session
  notes : ∀ session notes, view { session with notes } = view session

section Blind

variable (blind : Blind view)

include blind

theorem fresh_leaves : Leaves view fresh := fun _ => blind.next _ _

theorem newHeld_leaves (value : Value) (parts : List (String × Identity)) :
    Leaves view (newHeld value parts) :=
  (fresh_leaves blind).bind fun _ => .pure _

theorem newTree_leaves (lexer : Lexer Value) : Leaves view (newTree lexer) :=
  fun _ => blind.next _ _

theorem building_leaves (build : Build α) : Leaves view (building build) := by
  have noted : Leaves view (modify fun session =>
      { session with notes := session.notes ++ build.trace } : Run Unit) :=
    fun _ => blind.notes _ _
  exact noted.bind fun _ => ofExcept_leaves _

theorem matching_leaves (attempt : Match α) : Leaves view (matching attempt) := by
  have observed : Leaves view (modify fun session =>
      { session with probes := session.probes.observe (attempt []).trace } : Run Unit) :=
    fun _ => blind.probes _ _
  exact observed.bind fun _ => ofExcept_leaves _

theorem held_leaves (argument : Argument) : Leaves view argument.held := by
  cases argument with
  | register name => exact read_leaves name
  | _ =>
    refine (value_leaves _).bind fun value => ?_
    split
    · exact .pure _
    · exact newHeld_leaves blind _ _

/-- Making an object stores nothing and registers nothing. -/
theorem make_leaves (making : Making) : Leaves view (make making) := by
  cases making with
  | empty => exact newTree_leaves blind _
  | bare => exact (fresh_leaves blind).bind fun _ => newTree_leaves blind _
  | constant value => exact (held_leaves blind value).bind fun _ => newHeld_leaves blind _ _
  | compiled dialect flags source =>
    exact (value_leaves source).bind fun _ => (ofExcept_leaves _).bind fun _ => .pure _
  | table source groups lacking entries =>
    refine (value_leaves source).bind fun _ => (value_leaves groups).bind fun _ => ?_
    refine (Leaves.mapM (entryOf_leaves) entries).bind fun _ => ?_
    exact (fresh_leaves blind).bind fun _ => .pure _
  | fromPattern pattern =>
    refine (value_leaves pattern).bind fun _ => (ofExcept_leaves _).bind fun _ => ?_
    exact newTree_leaves blind _
  | fromRegex regex =>
    refine (value_leaves regex).bind fun _ => (building_leaves blind _).bind fun _ => ?_
    exact newTree_leaves blind _
  | map receiver mapper =>
    refine (lexerIn_leaves receiver _).bind fun _ => (value_leaves mapper).bind fun _ => ?_
    exact (ofExcept_leaves _).bind fun _ => newHeld_leaves blind _ _
  | or receiver other =>
    refine (lexerIn_leaves receiver _).bind fun _ => (held_leaves blind other).bind fun _ => ?_
    exact (ofExcept_leaves _).bind fun _ => newHeld_leaves blind _ _
  | orRegex receiver regex mapper =>
    refine (lexerIn_leaves receiver _).bind fun _ => (value_leaves regex).bind fun _ => ?_
    refine (value_leaves mapper).bind fun _ => (building_leaves blind _).bind fun _ => ?_
    exact (newTree_leaves blind _).bind fun _ => newHeld_leaves blind _ _
  | mapped inner mapper =>
    refine (held_leaves blind inner).bind fun _ => (value_leaves mapper).bind fun _ => ?_
    exact (ofExcept_leaves _).bind fun _ => newHeld_leaves blind _ _
  | orElse first second =>
    refine (held_leaves blind first).bind fun _ => (held_leaves blind second).bind fun _ => ?_
    exact (ofExcept_leaves _).bind fun _ => newHeld_leaves blind _ _
  | recording inner =>
    refine (held_leaves blind inner).bind fun _ => (fresh_leaves blind).bind fun _ => ?_
    exact (fresh_leaves blind).bind fun _ => .pure _
  | counting function =>
    refine (value_leaves function).bind fun _ => (fresh_leaves blind).bind fun _ => ?_
    exact (fresh_leaves blind).bind fun _ => .pure _
  | read data =>
    refine (value_leaves data).bind fun _ => get_leaves.bind fun _ => ?_
    exact (ofExcept_leaves _).bind fun _ => newHeld_leaves blind _ _
  | config rules =>
    refine (Leaves.mapM (fun rule => ?_) rules).bind fun _ => newHeld_leaves blind _ _
    exact (value_leaves rule.1).bind fun _ => (value_leaves rule.2).bind fun _ => .pure _
  | builder => exact (fresh_leaves blind).bind fun _ => .pure _
  | build receiver =>
    exact (builderIn_leaves receiver _).bind fun _ => newHeld_leaves blind _ _
  | registry => exact newHeld_leaves blind _ _
  | load receiver config =>
    refine (registryIn_leaves receiver _).bind fun registry => ?_
    refine (value_leaves config).bind fun value => ?_
    split
    · exact (building_leaves blind _).bind fun _ => newTree_leaves blind _
    · exact raise_leaves _

/-- Looking at an attribute may make an object, but stores nothing. -/
theorem fieldOf_leaves (held : Held) (field : String) : Leaves view (fieldOf held field) := by
  refine get_leaves.bind fun session => ?_
  dsimp only
  split
  -- Most attributes are parts of the object that are there already.
  any_goals exact .pure _
  · split
    · exact raise_leaves _
    · exact .pure _
  · split
    · exact raise_leaves _
    · exact .pure _
  · refine (Leaves.mapM (fun _ => ?_) _).bind fun _ => newHeld_leaves blind _ _
    exact (fresh_leaves blind).bind fun _ => .pure _
  · exact newHeld_leaves blind _ _
  · split
    · exact (fresh_leaves blind).bind fun _ => newHeld_leaves blind _ _
    · exact raise_leaves _

/-- Setting an attribute changes at most what a counter has seen. -/
theorem assign_leaves (held : Held) (field : String) (value : Value) :
    Leaves view (assign held field value) := by
  have counted (probe : Nat) (counter : Session → Counter) : Leaves view (modify fun session =>
      { session with probes := session.probes.setCounter probe (counter session) } : Run Unit) :=
    fun _ => blind.probes _ _
  unfold assign
  split
  · split
    · exact (counted _ _).bind fun _ => .pure _
    · exact raise_leaves _
  · exact (counted _ _).bind fun _ => .pure _
  · exact raise_leaves _
  · exact raise_leaves _
  · exact raise_leaves _
  · exact refuseChange_leaves _ _ _

end Blind

/-! ## Storing and registering -/

/-- The register in which a step stores. -/
def Step.target? : Step → Option String
  | .make target _ | .ask (.get _ _ target) => some target
  | _ => none

/-- Whether the step registers converters. -/
def Step.isRegistration : Step → Bool
  | .ask (.register _ _ _) | .ask (.registerCore _) => true
  | _ => false

/-- A step leaves a view as it was which sees nothing of the numbers, probes and notes, nothing
of the register in which the step stores, and, if it registers converters, nothing of the
builders. -/
theorem step_leaves (blind : Blind view) (step : Step)
    (stores : ∀ target, step.target? = some target → ∀ held, Leaves view (store target held))
    (registers : step.isRegistration = true →
      ∀ serial registry, Leaves view (setBuilder serial registry)) :
    Leaves view (Session.step step) := by
  cases step with
  | make target making =>
    refine (make_leaves blind making).bind fun held => ?_
    refine (stores target rfl held).bind fun _ => ?_
    split <;> exact .pure _
  | ask query =>
    change Leaves view (ask query)
    cases query with
    | tryMatch receiver input =>
      refine (read_leaves receiver).bind fun _ => (value_leaves input).bind fun _ => ?_
      exact (matching_leaves blind _).bind fun _ => .pure _
    | «matches» receiver inputs =>
      refine (read_leaves receiver).bind fun held => ?_
      refine (Leaves.mapM value_leaves inputs).bind fun inputs => ?_
      refine (Leaves.mapM (fun input => ?_) inputs).bind fun _ => .pure _
      exact caught_leaves (matching_leaves blind _)
    | call receiver value =>
      refine (read_leaves receiver).bind fun _ => (value_leaves value).bind fun _ => ?_
      exact (matching_leaves blind _).bind fun _ => .pure _
    | calls receiver | count receiver =>
      refine (read_leaves receiver).bind fun held => ?_
      split
      · exact get_leaves.bind fun _ => .pure _
      · exact raise_leaves _
    | shape value | depth value | branches value | value value =>
      exact (value_leaves value).bind fun _ => .pure _
    | equal a b =>
      refine (held_leaves blind a).bind fun _ => (held_leaves blind b).bind fun _ => ?_
      exact get_leaves.bind fun _ => .pure _
    | identical a b =>
      exact (held_leaves blind a).bind fun _ => (held_leaves blind b).bind fun _ => .pure _
    | hash receiver =>
      refine (read_leaves receiver).bind fun held => ?_
      split
      · exact raise_leaves _
      · exact .pure _
    | shown receiver =>
      refine (read_leaves receiver).bind fun held => ?_
      split
      · exact .pure _
      · exact raise_leaves _
    | get receiver field target =>
      refine (read_leaves receiver).bind fun held => (fieldOf_leaves blind held field).bind ?_
      exact fun part => (stores target rfl part).bind fun _ => .pure _
    | set receiver field value =>
      refine (read_leaves receiver).bind fun held => (value_leaves value).bind fun value => ?_
      exact assign_leaves blind held field value
    | delete receiver field =>
      exact (read_leaves receiver).bind fun held => refuseChange_leaves _ _ _
    | isPattern value =>
      refine (value_leaves value).bind fun value => ?_
      split <;> exact .pure _
    | notes => exact fun _ => blind.notes _ _
    | register receiver name converter =>
      refine (builderIn_leaves receiver _).bind fun builder => ?_
      refine (value_leaves name).bind fun _ => (value_leaves converter).bind fun _ => ?_
      exact (ofExcept_leaves _).bind fun _ => (registers rfl _ _).bind fun _ => .pure _
    | registerCore receiver =>
      refine (builderIn_leaves receiver _).bind fun builder => ?_
      exact (ofExcept_leaves _).bind fun _ => (registers rfl _ _).bind fun _ => .pure _
    | names receiver =>
      exact (registryIn_leaves receiver _).bind fun _ => (ofExcept_leaves _).bind fun _ => .pure _
    | size receiver => exact (registryIn_leaves receiver _).bind fun _ => .pure _
    | contains receiver name =>
      refine (registryIn_leaves receiver _).bind fun _ => (value_leaves name).bind fun _ => ?_
      exact (ofExcept_leaves _).bind fun _ => .pure _

end Session

end TokenLexer
