import TokenLexer.Proofs.Lexer.Accounting
import TokenLexer.Session

/-!
# Matches in a session

Asking a lexer to match changes the probes of a session and nothing else of it, and the
probes as its calls account for.

Main statements: `Session.after_tryMatch` and `Probes.calls_accounted_for`.
-/

namespace TokenLexer

/-! ## Nothing outside -/

/-- The computation does not depend on what happened before. -/
def Ongoing.Steady {ν ε α : Type} (computation : Ongoing ν ε α) : Prop :=
  ∀ past other, computation past = computation other

theorem Ongoing.Steady.bind {ν ε α β : Type} {first : Ongoing ν ε α} {next : α → Ongoing ν ε β}
    (steady : first.Steady) (each : ∀ value, (next value).Steady) : (first >>= next).Steady := by
  intro past other
  rw [bind_apply, bind_apply, steady past other]
  exact congrArg _ (funext fun value => each value _ _)

theorem Lexer.onText_steady (input : Value) (read : Text → Except Error (Option Value)) :
    (onText input read).Steady := by
  cases input <;> exact fun _ _ => rfl

theorem Mapper.call_steady (mapper : Mapper Value) (value : Value) :
    (mapper.call .nothing value).Steady := by
  induction mapper generalizing value with
  | counter probe inner ih => exact .bind (fun _ _ => rfl) fun _ => ih value
  | _ => exact fun _ _ => rfl

/-- With nothing outside, matching does not depend on what happened before. -/
theorem Lexer.run_steady (lexer : Lexer Value) (input : Value) :
    (lexer.run .nothing input).Steady := by
  induction lexer generalizing input with
  | empty => exact onText_steady _ _
  | pattern leaf => exact onText_steady _ _
  | mapped inner mapper ih =>
    refine .bind (ih input) fun token => ?_
    cases token with
    | none => exact fun _ _ => rfl
    | some token => exact .bind (mapper.call_steady token) fun _ _ _ => rfl
  | orElse first second ihFirst ihSecond =>
    refine .bind (ihFirst input) fun token => ?_
    cases token with
    | none => exact ihSecond input
    | some token => exact fun _ _ => rfl
  | recording probe inner ih => exact .bind (fun _ _ => rfl) fun _ => ih input
  | _ => exact fun _ _ => rfl

theorem Lexer.answer_steady (lexer : Lexer Value) (input : Value) :
    (lexer.answer .nothing input).Steady :=
  .bind (lexer.run_steady input) fun _ _ _ => rfl

theorem Probes.after_nothing (probes : Probes) (past other : List Event)
    (run : List (Lexer Value × Value)) :
    probes.after .nothing past run = probes.after .nothing other run := by
  induction run generalizing probes past other with
  | nil => rfl
  | cons call rest ih =>
    obtain ⟨lexer, input⟩ := call
    rw [after, after, lexer.answer_steady input past other]
    exact ih _ _ _

theorem Probes.after_append_nothing (probes : Probes) (past : List Event)
    (run others : List (Lexer Value × Value)) :
    probes.after .nothing past (run ++ others) =
      (probes.after .nothing past run).after .nothing past others := by
  induction run generalizing probes past with
  | nil => rfl
  | cons call rest ih =>
    obtain ⟨lexer, input⟩ := call
    rw [List.cons_append, after, after, ih]
    exact after_nothing _ _ _ _

/-! ## Parts of a session that change nothing -/

namespace Session

variable {α β : Type}

/-- The part of a session changes nothing. -/
def Keeps (part : Run α) : Prop :=
  ∀ session, (part.run.run session).2 = session

theorem run_bind (part : Run α) (next : α → Run β) (session : Session) :
    (part >>= next).run.run session =
      match part.run.run session with
      | (.ok value, later) => (next value).run.run later
      | (.error fault, later) => (.error fault, later) := by
  rw [ExceptT.run_bind, StateT.run_bind]
  rcases done : part.run.run session with ⟨fault | value, later⟩
  · rfl
  · rfl

theorem Keeps.pure (value : α) : Keeps (Pure.pure value : Run α) := fun _ => rfl

theorem Keeps.bind {part : Run α} {next : α → Run β} (keeps : Keeps part)
    (each : ∀ value, Keeps (next value)) : Keeps (part >>= next) := by
  intro session
  have same := keeps session
  rw [run_bind]
  split
  · next value later done =>
    rw [done] at same
    subst same
    exact each value _
  · next fault later failed =>
    rw [failed] at same
    exact same

theorem raise_keeps (error : Error) : Keeps (raise error : Run α) := fun _ => rfl

theorem read_keeps (register : String) : Keeps (read register) := by
  have looked : Keeps (get : Run Session) := fun _ => rfl
  refine looked.bind fun session => ?_
  split
  · exact .pure _
  · exact fun _ => rfl

mutual

theorem Argument.value_keeps : (argument : Argument) → Keeps argument.value
  | .none | .bool _ | .int _ | .float _ | .text _ | .bytes _ | .function _ => by
    unfold Argument.value
    exact .pure _
  | .list items | .tuple items => by
    unfold Argument.value
    exact (Argument.values_keeps items).bind fun _ => .pure _
  | .dict entries => by
    unfold Argument.value
    exact (Argument.entries_keeps entries []).bind fun _ => .pure _
  | .register name => by
    unfold Argument.value
    exact (read_keeps name).bind fun _ => .pure _

theorem Argument.values_keeps : (items : List Argument) → Keeps (Argument.values items)
  | [] => by
    unfold Argument.values
    exact .pure _
  | item :: rest => by
    unfold Argument.values
    exact (Argument.value_keeps item).bind fun _ =>
      (Argument.values_keeps rest).bind fun _ => .pure _

theorem Argument.entries_keeps : (entries : List (Argument × Argument)) →
    (before : List (Value × Value)) → Keeps (Argument.entries before entries)
  | [], before => by
    unfold Argument.entries
    exact .pure _
  | (key, value) :: rest, before => by
    unfold Argument.entries
    refine (Argument.value_keeps key).bind fun key => ?_
    refine (Argument.value_keeps value).bind fun value => ?_
    split
    · exact (raise_keeps _).bind fun _ => Argument.entries_keeps rest _
    · exact Argument.entries_keeps rest _

end

/-! ## Asking to match -/

theorem ask_tryMatch (receiver : String) (input : Argument) :
    ask (.tryMatch receiver input) = (do
      let held ← read receiver
      let value ← input.value
      return .value (← matching (held.value.toLexer.answer .nothing value))) := rfl

/-- The match that a query asks for. There is none if a register is not set. -/
def asked (session : Session) (receiver : String) (input : Argument) :
    List (Lexer Value × Value) :=
  match (read receiver).run.run session, input.value.run.run session with
  | (.ok held, _), (.ok value, _) => [(held.value.toLexer, value)]
  | _, _ => []

theorem matching_run (attempt : Match α) (session : Session) :
    (matching attempt).run.run session =
      ((attempt []).result.mapError .raised,
        { session with probes := session.probes.observe (attempt []).trace }) := by
  rw [matching, run_bind]
  change (ofExcept (attempt []).result).run.run _ = _
  cases (attempt []).result <;> rfl

theorem matching_probes (attempt : Match Value) (session : Session) :
    ((matching attempt).run.run session).2 =
      { session with probes := session.probes.observe (attempt []).trace } :=
  congrArg Prod.snd (matching_run attempt session)

theorem ask_tryMatch_session (session : Session) (receiver : String) (input : Argument) :
    ((ask (.tryMatch receiver input)).run.run session).2 =
      { session with
        probes := session.probes.after .nothing [] (session.asked receiver input) } := by
  have kept := read_keeps receiver session
  have same := input.value_keeps session
  rw [ask_tryMatch, run_bind, asked]
  rcases looked : (read receiver).run.run session with ⟨fault | held, later⟩
  · rw [looked] at kept
    exact kept
  · rw [looked] at kept
    obtain rfl : later = session := kept
    simp only [run_bind]
    rcases found : input.value.run.run later with ⟨fault | value, last⟩
    · rw [found] at same
      exact same
    · rw [found] at same
      obtain rfl : last = later := same
      have observed := matching_probes (held.value.toLexer.answer .nothing value) last
      dsimp only
      rcases made : (matching (held.value.toLexer.answer .nothing value)).run.run last with
        ⟨fault | answer, after⟩ <;> rw [made] at observed
      · exact observed
      · exact observed

/-- The session after these steps, whether they answered or failed. -/
def after : Session → List Step → Session
  | session, [] => session
  | session, first :: rest => after ((step first).run.run session).2 rest

/-- The matches that these queries ask for, one after another. -/
def askedAll : Session → List (String × Argument) → List (Lexer Value × Value)
  | _, [] => []
  | session, (receiver, input) :: rest =>
    session.asked receiver input ++
      askedAll ((ask (.tryMatch receiver input)).run.run session).2 rest

/-- Queries for matches change the probes, as their matches do, and nothing else. -/
theorem after_tryMatch (session : Session) (queries : List (String × Argument)) :
    session.after (queries.map fun query => .ask (.tryMatch query.1 query.2)) =
      { session with
        probes := session.probes.after .nothing [] (session.askedAll queries) } := by
  induction queries generalizing session with
  | nil => rfl
  | cons query rest ih =>
    obtain ⟨receiver, input⟩ := query
    rw [List.map_cons, after, askedAll, Probes.after_append_nothing]
    change after ((ask (.tryMatch receiver input)).run.run session).2 _ = _
    rw [ih, ask_tryMatch_session]

end Session

/-! ## The accounts of the probes -/

/-- The calls of a match: the lexer at the root and what this one calls, directly or through
others, no place in the tree twice, and each place in its turn. The second lexer of a choice is
called just when the first one returned `none`, with the same input; a mapper just when its
lexer returned another value, with this value. -/
structure Lexer.CallsInTurn (outside : Outside) (lexer : Lexer Value) (input : Value)
    (past : List Event) : Prop where
  made : ∀ visit, visit ∈ lexer.visits outside input past ↔
    Relation.ReflTransGen (Visit.Calls outside) ⟨[], .lexer lexer, input, past⟩ visit
  ordered : Visit.InOrder (lexer.visits outside input past)
  once : ((lexer.visits outside input past).map (·.place)).Nodup
  timed : Visit.Timed past (lexer.visits outside input past)
  events : (lexer.answer outside input past).trace =
    (lexer.visits outside input past).flatMap Visit.events
  second : ∀ first second argument before place,
    ⟨place, .lexer (.orElse first second), argument, before⟩ ∈ lexer.visits outside input past →
    ∀ visit, visit ∈ lexer.visits outside input past ∧ visit.place = place ++ [.second] ↔
      (first.answer outside argument before).result = .ok .none ∧
        visit = ⟨place ++ [.second], .lexer second, argument,
          before ++ (first.answer outside argument before).trace⟩
  mapper : ∀ inner mapper argument before place,
    ⟨place, .lexer (.mapped inner mapper), argument, before⟩ ∈ lexer.visits outside input past →
    ∀ visit, visit ∈ lexer.visits outside input past ∧ visit.place = place ++ [.mapper] ↔
      ∃ value, (inner.answer outside argument before).result = .ok value ∧ value ≠ .none ∧
        visit = ⟨place ++ [.mapper], .mapper mapper, value,
          before ++ (inner.answer outside argument before).trace⟩

theorem Lexer.callsInTurn (outside : Outside) (lexer : Lexer Value) (input : Value)
    (past : List Event) : lexer.CallsInTurn outside input past where
  made _ := mem_visits_iff
  ordered := visits_ordered outside lexer input past
  once := (visits_ordered outside lexer input past).nodup
  timed := visits_timed outside input past lexer
  events := by rw [answer_trace, run_trace]
  second _ _ _ _ _ called _ := second_called_iff called
  mapper _ _ _ _ _ called _ := mapper_called_iff called

namespace Probes

/-- What the probes hold after matches. A recording lexer has its old inputs and those of its
calls, a counter its old tokens and those of its calls, with one count for each. -/
structure Accounts (outside : Outside) (probes : Probes) (past : List Event)
    (run : List (Lexer Value × Value)) : Prop where
  calls : ∀ probe, (probes.after outside past run).calls probe =
    probes.calls probe ++ (Lexer.visitsAll outside past run).filterMap (·.recordedBy probe)
  seen : ∀ probe, ((probes.after outside past run).counters probe).seen =
    (probes.counters probe).seen ++
      (Lexer.visitsAll outside past run).filterMap (·.countedBy probe)
  count : ∀ probe, ((probes.after outside past run).counters probe).count =
    (probes.counters probe).count +
      ((Lexer.visitsAll outside past run).filterMap (·.countedBy probe)).length
  balanced : ∀ probe, (probes.counters probe).count = (probes.counters probe).seen.length →
    ((probes.after outside past run).counters probe).count =
      ((probes.after outside past run).counters probe).seen.length

theorem accounts (outside : Outside) (probes : Probes) (past : List Event)
    (run : List (Lexer Value × Value)) : probes.Accounts outside past run := by
  -- All of it can be read off the probes after they have observed the calls.
  have observed := (after_eq outside probes past run).trans (observe_visits _ _)
  constructor
  case balanced =>
    intro probe old
    simp only [observed, List.length_append, Int.natCast_add, old]
  all_goals simp only [observed, implies_true]

/-- The calls of each match are made in their turn, and after any number of matches the probes
hold what these calls account for; nothing else in a session has changed. -/
theorem calls_accounted_for (outside : Outside) :
    (∀ (lexer : Lexer Value) (input : Value) (past : List Event),
      lexer.CallsInTurn outside input past) ∧
    (∀ (probes : Probes) (past : List Event) (run : List (Lexer Value × Value)),
      probes.Accounts outside past run) ∧
    ∀ (session : Session) (queries : List (String × Session.Argument)),
      session.after (queries.map fun query => .ask (.tryMatch query.1 query.2)) =
        { session with
          probes := session.probes.after .nothing [] (session.askedAll queries) } :=
  ⟨Lexer.callsInTurn outside, accounts outside, Session.after_tryMatch⟩

/-- Probe 0 is in both lexers of a choice, and probe 1 in both mappers; the second of them is
called with a token that a condition would take for false, and fails. -/
def sharingProbes : Lexer Value :=
  .orElse (.mapped (.recording 0 .empty) (.counter 1 (.function .none)))
    (.recording 0 (.mapped (.constant (.int 0)) (.counter 1 (.function .raise))))

theorem shared_probes_accounted_for :
    let last := fresh.after .nothing []
      [(sharingProbes, .text [0x61]), (sharingProbes, .text [0x62])]
    last.calls 0 = [.text [0x61], .text [0x61], .text [0x62], .text [0x62]] ∧
      (last.counters 1).count = 2 ∧ (last.counters 1).seen = [.int 0, .int 0] := by
  have account := (calls_accounted_for .nothing).2.1 fresh []
    [(sharingProbes, .text [0x61]), (sharingProbes, .text [0x62])]
  exact ⟨account.calls 0, account.count 1, account.seen 1⟩

end Probes

end TokenLexer
