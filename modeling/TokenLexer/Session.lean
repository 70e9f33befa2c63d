import TokenLexer.Backtracking.Reading
import TokenLexer.Session.Identity
import TokenLexer.Session.Step

/-!
# Sessions

A session runs its steps one after another. A step that fails stores nothing, but
what its probes saw and what was noted before the failure stays.
-/

namespace TokenLexer

/-- The registers, the probes and the notes of a session. Objects are numbered
from `next` on. Sets hand out their keys in the `order` of the session. -/
structure Session where
  registers : List (String × Session.Held) := []
  next : Nat := 0
  probes : Probes := .fresh
  builders : List (Nat × Registry) := []
  notes : List Note := []
  order : KeyOrder := .entered

namespace Session

/-- A part of a session: it may fail, and what it changed stays changed. -/
abbrev Run := ExceptT Fault (StateM Session)

def raise {α : Type} (error : Error) : Run α :=
  throw (.raised error)

def ofExcept {α : Type} (result : Except Error α) : Run α :=
  match result with
  | .ok value => pure value
  | .error error => raise error

/-- Builds, and keeps the notes. -/
def building {α : Type} (build : Build α) : Run α := do
  modify fun session => { session with notes := session.notes ++ build.trace }
  ofExcept build.result

/-- Matches, and lets the probes observe. A session has nothing outside it that could
remember what happened before. -/
def matching {α : Type} (attempt : Match α) : Run α := do
  let attempt := attempt []
  modify fun session => { session with probes := session.probes.observe attempt.trace }
  ofExcept attempt.result

/-- The next number. -/
def fresh : Run Nat :=
  modifyGet fun session => (session.next, { session with next := session.next + 1 })

def read (register : String) : Run Held := do
  let session ← get
  match session.registers.lookup register with
  | some held => return held.upToDate session.probes
  | none => throw (.unset register)

def store (register : String) (held : Held) : Run Unit :=
  modify fun session =>
    { session with registers := (register, held) :: session.registers.filter (·.1 != register) }

/-- Wherever a number that is none is put from a register, it is the object with this number. -/
private def numbered (serial : Nat) : Value → Value
  | .float (.nan none) => .float (.nan serial)
  | value => value

/-- The object of a value that was made from nothing that has a register. -/
def newHeld (value : Value) (parts : List (String × Identity) := []) : Run Held := do
  let serial ← fresh
  return ⟨numbered serial value, .unique serial parts, none⟩

/-- The object of a value that has its number already. -/
private def newHeldAs (serial : Nat) (value : Value) (parts : List (String × Identity)) :
    Run Held :=
  return ⟨value, .unique serial parts, none⟩

/-- The object of a lexer that was made with all its parts. -/
def newTree (lexer : Lexer Value) : Run Held :=
  modifyGet fun session =>
    let (identity, next) := Identity.ofLexer session.next lexer
    (⟨.lexer lexer, identity, none⟩, { session with next })

/-! ## Arguments -/

mutual

/-- The value of an argument. A later entry of a dictionary replaces an earlier one. -/
def Argument.value : Argument → Run Value
  | .none => return .none
  | .bool b => return .bool b
  | .int i => return .int i
  | .float x => return .float x
  | .text t => return .text t
  | .bytes b => return .bytes b
  | .list items => return .list (← Argument.values items)
  | .tuple items => return .tuple (← Argument.values items)
  | .dict entries => return .dict (← Argument.entries [] entries)
  | .function f => return .mapper (.function f)
  | .register name => return (← read name).value

def Argument.values : List Argument → Run (List Value)
  | [] => return []
  | item :: rest => do
    let value ← Argument.value item
    return value :: (← Argument.values rest)

def Argument.entries (before : List (Value × Value)) :
    List (Argument × Argument) → Run (List (Value × Value))
  | [] => return before
  | (key, value) :: rest => do
    let key ← Argument.value key
    let value ← Argument.value value
    if let some found := key.unhashable? then
      raise (.unhashable found)
    Argument.entries (Value.insert key value before) rest

end

/-- The value of an argument as an object. -/
def Argument.held (argument : Argument) : Run Held := do
  match argument with
  | .register name => read name
  | _ =>
    let value ← argument.value
    if Identity.isShared value then return ⟨value, .shared, Option.none⟩ else newHeld value

/-! ## Receivers -/

/-- The lexer in a register, which is asked for its attribute `name`. -/
def lexerIn (register name : String) : Run (Held × Lexer Value) := do
  let held ← read register
  match held.value with
  | .lexer lexer => return (held, lexer)
  | value => raise (.noAttribute value name)

def registryIn (register name : String) : Run Registry := do
  match (← read register).value with
  | .registry converters => return ⟨converters⟩
  | value => raise (.noAttribute value name)

/-- The builder in a register with what was registered so far. -/
def builderIn (register name : String) : Run (Nat × Registry) := do
  match (← read register).value with
  | .builder serial => return (serial, ((← get).builders.lookup serial).getD .empty)
  | value => raise (.noAttribute value name)

def setBuilder (serial : Nat) (registry : Registry) : Run Unit :=
  modify fun session =>
    { session with
      builders := (serial, registry) :: session.builders.filter (·.1 != serial) }

/-! ## Making -/

def entryOf : Text × Entry → Run (Text × Answer Value)
  | (text, .group argument) => return (text, .group (← argument.value))
  | (text, .unencodable) => return (text, .unencodable)
  | (text, .valueError) => return (text, .valueError)
  | (text, .runtimeError) => return (text, .runtimeError)

/-- Compiles an expression of either dialect. Bytes are compiled like the text of
their values. -/
private def compile (dialect : Dialect) (flags : Backtracking.Flags) (source : Value) :
    Except Error (Pattern Value) := do
  match dialect, source with
  | .linear, .text text => Pattern.compile text
  | .linear, .bytes bytes =>
    let tree ← Pattern.treeOf bytes
    return .ofBytes .linear {} bytes tree.groupCount
  | .backtracking, .text text =>
    let tree ← (Backtracking.parse flags text).mapError .expressionError
    return .backtracking text flags tree
  | .backtracking, .bytes bytes =>
    let tree ← (Backtracking.parse flags bytes).mapError .expressionError
    return .ofBytes .backtracking flags bytes tree.groupCount
  | _, other => .error (.regexNotText other.typeName)

def make : Making → Run Held
  | .empty => newTree .empty
  | .bare => do newTree (.bare (← fresh))
  | .constant value => do
    let held ← value.held
    newHeld (.lexer (.constant held.value)) [("value", held.identity)]
  | .compiled dialect flags source => do
    return ⟨.pattern (← ofExcept (compile dialect flags (← source.value))), .shared, none⟩
  | .table source groups lacking entries => do
    let source ← source.value
    let groups ← groups.value
    let answers ← entries.mapM entryOf
    let table : Table Value := ⟨source, groups, lacking, fun text => answers.lookup text⟩
    return ⟨.pattern (.table (← fresh) table), .shared, none⟩
  | .fromPattern pattern => do newTree (← ofExcept (Lexer.ofPattern (← pattern.value)))
  | .fromRegex regex => do newTree (← building (Lexer.ofRegex (← regex.value)))
  | .map receiver mapper => do
    let (held, lexer) ← lexerIn receiver "map"
    let mapper ← mapper.value
    let lexer ← ofExcept (lexer.map mapper)
    newHeld (.lexer lexer)
      [("lexer", held.identity), ("mapper", Identity.ofMapper mapper.toMapper)]
  | .or receiver other => do
    let (held, lexer) ← lexerIn receiver "or_"
    let other ← other.held
    let lexer ← ofExcept (lexer.or other.value)
    newHeld (.lexer lexer) [("first", held.identity), ("second", other.identity)]
  | .orRegex receiver regex mapper => do
    let (held, lexer) ← lexerIn receiver "with_"
    let regex ← regex.value
    let mapper ← mapper.value
    let lexer ← building (lexer.orRegex regex mapper)
    let made ← newTree lexer
    newHeld (.lexer lexer)
      [("first", held.identity), ("second", made.identity.part "second")]
  | .mapped inner mapper => do
    let inner ← inner.held
    let mapper ← mapper.value
    let lexer ← ofExcept (inner.value.toLexer.map mapper)
    newHeld (.lexer lexer)
      [("lexer", inner.identity), ("mapper", Identity.ofMapper mapper.toMapper)]
  | .orElse first second => do
    let first ← first.held
    let second ← second.held
    let lexer ← ofExcept (first.value.toLexer.or second.value)
    newHeld (.lexer lexer) [("first", first.identity), ("second", second.identity)]
  | .recording inner => do
    let inner ← inner.held
    let probe ← fresh
    let calls ← fresh
    let lexer : Lexer Value := .recording probe inner.value.toLexer
    newHeldAs probe (.lexer lexer) [("inner", inner.identity), ("calls", .unique calls [])]
  | .counting function => do
    let function ← function.value
    let probe ← fresh
    let seen ← fresh
    newHeldAs probe (.mapper (.counter probe function.toMapper)) [("seen", .unique seen [])]
  | .read data => do
    let data ← data.value
    let config ← ofExcept (Config.ofValue data (← get).order)
    newHeld config.toValue
  | .config rules => do
    let rules ← rules.mapM fun (regex, convert) => do
      return (← regex.value, ← convert.value)
    newHeld (.config rules)
  | .builder => do
    let serial ← fresh
    return ⟨.builder serial, .unique serial [], none⟩
  | .build receiver => do
    let (_, registry) ← builderIn receiver "build"
    newHeld (.registry registry.converters)
  | .registry => newHeld (.registry Registry.empty.converters)
  | .load receiver config => do
    let registry ← registryIn receiver "load_lexer"
    match ← config.value with
    | .config rules =>
      newTree (← building (registry.load ⟨rules.map fun rule => ⟨rule.1, rule.2⟩⟩))
    | value => raise (.noAttribute value "rules")

/-! ## Asking -/

/-- What a value answers when it is asked to match. -/
private def attempt (value input : Value) : Run Value :=
  matching (value.toLexer.answer .nothing input)

/-- The result of a part of a session, which goes on after a failure. -/
def caught {α : Type} (part : Run α) : Run (Except Fault α) :=
  tryCatch (do return .ok (← part)) fun fault => return .error fault

/-- Whether two counters have counted the same. -/
def alike (probes : Probes) (p q : Nat) : Bool :=
  (probes.counters p).count == (probes.counters q).count &&
    Value.sameList (fun m n => m == n) (probes.counters p).seen (probes.counters q).seen

/-- An object equals itself, unless it is a number that is none. -/
def equals (probes : Probes) (a b : Held) : Bool :=
  match a.value, a.identity, b.identity with
  | .float (.nan _), _, _ => false
  | _, .unique m _, .unique n _ => m == n || a.value.same (alike probes) b.value
  | _, _, _ => a.value.same (alike probes) b.value

/-- The names of what an object can be asked to do. -/
private def methods : Value → List String
  | .lexer _ => ["try_match", "map", "or_", "with_"]
  | .registry _ => ["load_lexer", "contains_converter", "converter_names"]
  | .builder _ => ["converter", "build"]
  | _ => []

/-- The attribute of an object. -/
def fieldOf (held : Held) (field : String) : Run Held := do
  let probes := (← get).probes
  let part (value : Value) : Run Held := return ⟨value, held.identity.part field, none⟩
  let growing (list : Growing) : Run Held :=
    return ⟨list.value probes, held.identity.part field, some list⟩
  match held.value, field with
  | .pattern p, "pattern" =>
    if p.lacks field then raise (.noAttribute held.value field) else part p.source
  | .pattern p, "groups" =>
    if p.lacks field then raise (.noAttribute held.value field) else part p.groups
  | .lexer (.pattern p), "pattern" => part (.pattern p)
  | .lexer (.mapped inner _), "lexer" => part (.ofLexer inner)
  | .lexer (.mapped _ mapper), "mapper" => part (.ofMapper mapper)
  | .lexer (.orElse first _), "first" => part (.ofLexer first)
  | .lexer (.orElse _ second), "second" => part (.ofLexer second)
  | .lexer (.recording _ inner), "inner" => part (.ofLexer inner)
  | .lexer (.recording probe _), "calls" => growing (.calls probe)
  | .lexer (.constant value), "value" => part value
  | .mapper (.counter _ inner), "fn" => return ⟨.ofMapper inner, Identity.ofMapper inner, none⟩
  | .mapper (.counter probe _), "count" =>
    return ⟨.int (probes.counters probe).count, .shared, none⟩
  | .mapper (.counter probe _), "seen" => growing (.seen probe)
  | .config rules, "rules" => do
    let items ← rules.mapM fun _ => do return .object "RuleConfig" (← fresh)
    newHeld (.tuple items)
  | .registry converters, "converter_count" => newHeld (.int converters.length)
  | value, _ =>
    if (methods value).contains field then newHeld (.object "method" (← fresh))
    else raise (.noAttribute value field)

/-- The fields of an object that can never be set. -/
private def frozenFields? : Value → Option (List String)
  | .lexer .empty => some []
  | .lexer (.pattern _) => some ["pattern"]
  | .lexer (.mapped _ _) => some ["lexer", "mapper"]
  | .lexer (.orElse _ _) => some ["first", "second"]
  | .lexer (.recording _ _) => some ["inner", "calls"]
  | .config _ => some ["rules"]
  | .registry _ => some ["_converters"]
  | _ => none

/-- Complains about a change of a field. A constant complains alike about fields
that it does not have. -/
def refuseChange {α : Type} (owner : Value) (field : String) (frozen : Error) : Run α :=
  match owner, frozenFields? owner with
  | .lexer (.constant _), _ => raise frozen
  | _, some fields => raise (if fields.contains field then frozen else .noSuchField)
  | _, none => raise (.noAttribute owner field)

/-- Sets a field of an object. A counter holds a whole number and a list, and the mapper in it is
part of the trees that it stands in; what a builder holds is no value. So nothing else can be put
in place there, although the library would let it be, and a session says so instead of going on
as if it had been. -/
def assign (held : Held) (field : String) (value : Value) : Run Response := do
  match held.value, field, value with
  | .mapper (.counter probe _), "count", _ =>
    let some count := value.whole? | raise (.notFollowed field)
    modify fun session =>
      { session with
        probes := session.probes.setCounter probe
          { session.probes.counters probe with count := count } }
    return .nothing
  | .mapper (.counter probe _), "seen", .list seen =>
    modify fun session =>
      { session with
        probes := session.probes.setCounter probe
          { session.probes.counters probe with seen := seen } }
    return .nothing
  | .mapper (.counter _ _), "fn", _ | .mapper (.counter _ _), "seen", _ | .builder _, _, _ =>
    raise (.notFollowed field)
  | owner, _, _ => refuseChange owner field (.cannotAssign field)

def ask : Query → Run Response
  | .tryMatch receiver input => do
    let held ← read receiver
    return .value (← attempt held.value (← input.value))
  | .matches receiver inputs => do
    let held ← read receiver
    let inputs ← inputs.mapM Argument.value
    return .results (← inputs.mapM fun input => caught (attempt held.value input))
  | .call receiver value => do
    let held ← read receiver
    let value ← value.value
    return .value (← matching (held.value.toMapper.call .nothing value))
  | .calls receiver => do
    match (← read receiver).value with
    | .lexer (.recording probe _) => return .value (.list ((← get).probes.calls probe))
    | value => raise (.noAttribute value "calls")
  | .count receiver => do
    match (← read receiver).value with
    | .mapper (.counter probe _) => return .counter ((← get).probes.counters probe)
    | value => raise (.noAttribute value "count")
  | .shape value => do return .shape (← value.value).toLexer
  | .depth value => do return .number (← value.value).toLexer.depth
  | .branches value => do return .shapes (← value.value).toLexer.branches
  | .equal a b => do
    let a ← a.held
    let b ← b.held
    return .flag (equals (← get).probes a b)
  | .identical a b => do
    let a ← a.held
    let b ← b.held
    return .flag (a.identity.same b.identity a.value b.value)
  | .hash receiver => do
    match (← read receiver).value.unhashable? with
    | some found => raise (.unhashable found)
    | none => return .flag true
  | .shown receiver => do
    let held ← read receiver
    if held.value.isWritable then return .value (.text held.value.shown)
    else raise (.digitsOverLimit none)
  | .get receiver field target => do
    let held ← read receiver
    store target (← fieldOf held field)
    return .done
  | .set receiver field value => do
    let held ← read receiver
    assign held field (← value.value)
  | .delete receiver field => do
    let held ← read receiver
    refuseChange held.value field (.cannotDelete field)
  | .isPattern value => do
    match ← value.value with
    | .pattern p => return .flag p.isComplete
    | _ => return .flag false
  | .notes => modifyGet fun session => (.notes session.notes, { session with notes := [] })
  | .value value => do return .value (← value.value)
  | .register receiver name converter => do
    let (serial, registry) ← builderIn receiver "converter"
    let name ← name.value
    let converter ← converter.value
    setBuilder serial (← ofExcept (registry.register name converter))
    return .done
  | .registerCore receiver => do
    let (serial, registry) ← builderIn receiver "converter"
    setBuilder serial (← ofExcept registry.registerCore)
    return .done
  | .names receiver => do
    let registry ← registryIn receiver "converter_names"
    return .value (.list (← ofExcept registry.names))
  | .size receiver => do return .number (← registryIn receiver "converter_count").size
  | .contains receiver name => do
    let registry ← registryIn receiver "contains_converter"
    let name ← name.value
    return .flag (← ofExcept (registry.contains name))

/-! ## Steps -/

def step : Step → Run Response
  | .make target making => do
    let held ← make making
    store target held
    match held.value with
    | .pattern _ => return .madePattern
    | value => return .made value.typeName
  | .ask query => ask query

/-- The answers of all steps, each of them given the session that the steps
before it left. -/
def answers : Session → List Step → List (Except Fault Response)
  | _, [] => []
  | session, first :: rest =>
    let (answer, next) := (step first).run.run session
    answer :: answers next rest

end Session

end TokenLexer
