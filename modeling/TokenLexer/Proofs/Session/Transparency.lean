import TokenLexer.Proofs.Lexer.Memory
import TokenLexer.Proofs.Session.Snapshots

/-!
# Probes go unnoticed

Recording lexers and counters pass on what they are given, and what comes back. So a tree with
probes put around any of its parts makes the same calls of functions and of lexers from outside
as the tree without them, and answers the same: whatever the probes hold, wherever one of them
stands several times, and for one input after another, since a failure is the same failure on
both sides.

Main statements: `Lexer.Probed.run_alike`, `Session.answers_tryMatch` and
`Lexer.probes_go_unnoticed`.
-/

namespace TokenLexer

open Match (Alike)

/-! ## Trees with probes put around their parts -/

/-- The second mapper is the first one, within any number of counters. -/
inductive Mapper.Probed : Mapper Value → Mapper Value → Prop
  | same (mapper : Mapper Value) : Probed mapper mapper
  | counted (probe : Nat) {mapper other : Mapper Value} (inside : Probed mapper other) :
      Probed mapper (.counter probe other)

/-- The second tree is the first one with probes put around some of its parts: recording lexers
around lexers, counters around mappers. A probe may be put at several places. -/
inductive Lexer.Probed : Lexer Value → Lexer Value → Prop
  | same (lexer : Lexer Value) : Probed lexer lexer
  | mapped {inner other : Lexer Value} {mapper called : Mapper Value} (inside : Probed inner other)
      (mappers : Mapper.Probed mapper called) :
      Probed (.mapped inner mapper) (.mapped other called)
  | orElse {first second front back : Lexer Value} (left : Probed first front)
      (right : Probed second back) : Probed (.orElse first second) (.orElse front back)
  | recording (probe : Nat) {inner other : Lexer Value} (inside : Probed inner other) :
      Probed (.recording probe inner) (.recording probe other)
  | recorded (probe : Nat) {lexer other : Lexer Value} (inside : Probed lexer other) :
      Probed lexer (.recording probe other)

theorem Mapper.Probed.call_alike {mapper other : Mapper Value} (probed : mapper.Probed other)
    (outside : Outside) (value : Value) :
    Alike (mapper.call outside value) (other.call outside value) := by
  induction probed with
  | same mapper => exact (mapper.call_recalls outside value).alike
  | counted probe _ ih => exact ih.noted rfl

namespace Lexer

variable {lexer probed : Lexer Value}

/-- A match by the tree with probes is like a match by the one without. -/
theorem Probed.run_alike (wrapped : lexer.Probed probed) (outside : Outside) (input : Value) :
    Alike (lexer.run outside input) (probed.run outside input) := by
  induction wrapped with
  | same lexer => exact (lexer.run_recalls outside input).alike
  | mapped _ mappers ih => exact mapped_alike ih fun token => mappers.call_alike outside token
  | orElse _ _ front back => exact orElse_alike front back
  | recording probe _ ih => exact recording_alike probe probe ih
  | recorded probe _ ih => exact ih.noted rfl

/-! ## One input after another -/

/-- What the lexer answers to the inputs, each of them after what happened with those before it.
A failure does not keep the next input from being asked. -/
def answers (outside : Outside) (lexer : Lexer Value) :
    List Event → List Value → List (Except Error Value)
  | _, [] => []
  | past, input :: rest =>
    let answered := lexer.answer outside input past
    answered.result :: answers outside lexer (past ++ answered.trace) rest

/-- The two trees stay in step, as each match adds the same calls on both sides. -/
theorem Probed.answers_eq (wrapped : lexer.Probed probed) (outside : Outside) (inputs : List Value)
    {past before : List Event} (same : past.filter Event.isCall = before.filter Event.isCall) :
    probed.answers outside before inputs = lexer.answers outside past inputs := by
  induction inputs generalizing past before with
  | nil => rfl
  | cons input rest ih =>
    obtain ⟨results, calls⟩ := answer_alike (wrapped.run_alike outside input) past before same
    have further : (past ++ (lexer.answer outside input past).trace).filter Event.isCall =
        (before ++ (probed.answer outside input before).trace).filter Event.isCall := by
      rw [List.filter_append, List.filter_append, same, calls]
    rw [answers, answers, results, ih further]

/-- With nothing outside, the answers do not depend on what happened before. -/
theorem answers_nothing (lexer : Lexer Value) (past other : List Event) (inputs : List Value) :
    lexer.answers .nothing past inputs = lexer.answers .nothing other inputs := by
  induction inputs generalizing past other with
  | nil => rfl
  | cons input rest ih =>
    rw [answers, answers, lexer.answer_steady input past other]
    exact congrArg _ (ih _ _)

end Lexer

/-! ## In a session -/

namespace Session

variable {session : Session} {lexer : Lexer Value} {receiver : String} {input : Argument}
  {value : Value}

/-- The argument has this value, whatever the probes of the session hold. -/
def Means (session : Session) (argument : Argument) (value : Value) : Prop :=
  ∀ probes, ({ session with probes } : Session).Gives argument.value value

theorem Holds.lexer_probes (holds : session.Holds receiver (.lexer lexer)) (probes : Probes) :
    ({ session with probes } : Session).Holds receiver (.lexer lexer) := by
  obtain ⟨held, same, gives⟩ := holds.lexer
  exact ⟨held, gives probes, same⟩

/-- Asking for a match answers what the lexer answers, and lets the probes observe. -/
theorem ask_tryMatch_run (holds : session.Holds receiver (.lexer lexer))
    (given : session.Gives input.value value) :
    (ask (.tryMatch receiver input)).run.run session =
      (((lexer.answer .nothing value []).result.map .value).mapError .raised,
        { session with
          probes := session.probes.observe (lexer.answer .nothing value []).trace }) := by
  obtain ⟨held, found, same⟩ := holds
  have asked : held.value.toLexer = lexer := congrArg Value.toLexer same
  rw [ask_tryMatch, (read_keeps receiver).bind_ok found, input.value_keeps.bind_ok given, run_bind,
    asked, matching_run]
  cases (lexer.answer .nothing value []).result <;> rfl

/-- Asked for one match after another, the session answers what the lexer answers. -/
theorem answers_tryMatch {inputs : List Argument} {values : List Value}
    (holds : session.Holds receiver (.lexer lexer))
    (means : List.Forall₂ session.Means inputs values) :
    session.answers (inputs.map fun input => .ask (.tryMatch receiver input)) =
      (lexer.answers .nothing [] values).map fun result =>
        (result.map .value).mapError .raised := by
  -- Only the probes change from one match to the next, and neither the register nor the
  -- arguments depend on them.
  induction inputs generalizing session values with
  | nil =>
    cases means
    rfl
  | cons input rest ih =>
    obtain ⟨value, others, first, rest, rfl⟩ := List.forall₂_cons_left_iff.mp means
    have asked := ask_tryMatch_run holds (first session.probes)
    let observed := session.probes.observe (lexer.answer .nothing value []).trace
    have later := ih (holds.lexer_probes observed) (rest.imp fun _ _ given _ => given _)
    rw [List.map_cons, Session.answers, step, asked, Lexer.answers, List.map_cons,
      lexer.answers_nothing _ []]
    exact congrArg _ later

end Session

/-! ## The answers -/

namespace Lexer

variable {lexer probed : Lexer Value}

/-- A tree with probes put around any of its parts answers to one input after another what the
tree answers without them: tokens, `none` and errors. It does so with functions and lexers from
outside that remember their calls, and in sessions whose probes hold anything. -/
theorem probes_go_unnoticed (wrapped : lexer.Probed probed) :
    (∀ outside past before inputs,
      past.filter Event.isCall = before.filter Event.isCall →
      probed.answers outside before inputs = lexer.answers outside past inputs) ∧
    ∀ (session other : Session) (receiver asked : String)
      (inputs arguments : List Session.Argument) (values : List Value),
      session.Holds receiver (.lexer lexer) → other.Holds asked (.lexer probed) →
      List.Forall₂ session.Means inputs values → List.Forall₂ other.Means arguments values →
      other.answers (arguments.map fun argument => .ask (.tryMatch asked argument)) =
        session.answers (inputs.map fun input => .ask (.tryMatch receiver input)) := by
  refine ⟨fun outside past before inputs same => wrapped.answers_eq outside inputs same, ?_⟩
  intro session other receiver asked inputs arguments values holds held means meant
  rw [Session.answers_tryMatch holds means, Session.answers_tryMatch held meant,
    wrapped.answers_eq .nothing values rfl]

/-- Finds the number zero in every text but `a`, and raises an error for that. -/
def zeroUnlessA : Lexer Value :=
  .orElse
    (.mapped (.pattern (.linear [0x28, 0x61, 0x29] (.group 1 (.chars (.single 0x61)))))
      (.function .raise))
    (.mapped (.constant (.int 0)) (.function .identity))

/-- The same with one recording lexer at three places, and one counter at three places. -/
def zeroUnlessAProbed : Lexer Value :=
  .recording 0 (.orElse
    (.mapped (.recording 0 (.recording 0
        (.pattern (.linear [0x28, 0x61, 0x29] (.group 1 (.chars (.single 0x61)))))))
      (.counter 1 (.counter 1 (.function .raise))))
    (.mapped (.constant (.int 0)) (.counter 1 (.function .identity))))

theorem failures_go_unnoticed :
    let inputs : List Session.Argument := [.text [0x62], .text [0x61], .int 7, .text [0x62]]
    let plain : Session := { registers := [("l", ⟨.lexer zeroUnlessA, .shared, none⟩)] }
    let other : Session :=
      { registers := [("l", ⟨.lexer zeroUnlessAProbed, .shared, none⟩)]
        probes := ⟨fun _ => [.int 7], fun _ => { count := -1, seen := [.none] }⟩ }
    zeroUnlessA.Probed zeroUnlessAProbed ∧
      other.answers (inputs.map fun input => .ask (.tryMatch "l" input)) =
        plain.answers (inputs.map fun input => .ask (.tryMatch "l" input)) ∧
      plain.answers (inputs.map fun input => .ask (.tryMatch "l" input)) =
        [.ok (.value (.int 0)), .error (.raised (.refused "boom")),
          .error (.raised (.inputNotText "int")), .ok (.value (.int 0))] := by
  intro inputs plain other
  have wrapped : zeroUnlessA.Probed zeroUnlessAProbed :=
    .recorded 0 (.orElse
      (.mapped (.recorded 0 (.recorded 0 (.same _))) (.counted 1 (.counted 1 (.same _))))
      (.mapped (.same _) (.counted 1 (.same _))))
  have means (session : Session) : List.Forall₂ session.Means inputs
      [.text [0x62], .text [0x61], .int 7, .text [0x62]] :=
    .cons (fun _ => rfl) (.cons (fun _ => rfl) (.cons (fun _ => rfl) (.cons (fun _ => rfl) .nil)))
  refine ⟨wrapped, ?_, by cbv⟩
  exact (probes_go_unnoticed wrapped).2 plain other "l" "l" inputs inputs _ ⟨_, rfl, rfl⟩
    ⟨_, rfl, rfl⟩ (means plain) (means other)

end Lexer

end TokenLexer
