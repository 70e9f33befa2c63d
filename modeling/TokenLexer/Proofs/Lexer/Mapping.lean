import TokenLexer.Lexer.Building
import TokenLexer.Proofs.Lexer.Branches
import TokenLexer.Proofs.Traversal

/-!
# Chains of mappers

A lexer whose tokens are transformed by one mapper after another hands its value through the
mappers in turn. Each one is called with what the one before it returned, up to the first that
returns `none` or raises an error; those behind it are not called. So the chain does what one
mapper does that hands the value through all of them.

Main statements: `Lexer.answer_mappedAll`, `Mapper.callAll_handsThrough` and
`mapAll_hands_through`.
-/

namespace TokenLexer

/-- Errors aside, what comes next matters only for the values that are returned. -/
theorem Ongoing.result_bind_congr {ν ε α β : Type} {first : Ongoing ν ε α}
    {next other : α → Ongoing ν ε β} {past : List ν}
    (same : ∀ value, (first past).result = .ok value →
      (next value (past ++ (first past).trace)).result =
        (other value (past ++ (first past).trace)).result) :
    ((first >>= next) past).result = ((first >>= other) past).result := by
  rw [bind_apply, bind_apply, Traced.result_bind, Traced.result_bind]
  cases done : (first past).result with
  | error error => rfl
  | ok value => exact same value done

theorem Value.getD_token? (value : Value) : value.token?.getD .none = value := by
  cases value <;> rfl

/-- The call of a mapper: with which value, and after what had happened. -/
structure MapperCall where
  mapper : Mapper Value
  value : Value
  before : List Event

/-- What happens in the call. -/
def MapperCall.events (outside : Outside) (call : MapperCall) : List Event :=
  (call.mapper.call outside call.value call.before).trace

/-- A value is handed through mappers, each called with what the one before it returned. The
calls end with the mappers, or with the first that raises an error, or where there is no value
to hand on. -/
inductive HandedThrough (outside : Outside) :
    Value → List Event → List (Mapper Value) → List MapperCall → Except Error Value → Prop
  | finished {value : Value} {past : List Event} :
      HandedThrough outside value past [] [] (.ok value)
  | nothing {past : List Event} {mappers : List (Mapper Value)} :
      HandedThrough outside .none past mappers [] (.ok .none)
  | raised {value : Value} {past : List Event} {mapper : Mapper Value}
      {rest : List (Mapper Value)} {error : Error} (present : value ≠ .none)
      (failed : (mapper.call outside value past).result = .error error) :
      HandedThrough outside value past (mapper :: rest) [⟨mapper, value, past⟩] (.error error)
  | returned {value next : Value} {past : List Event} {mapper : Mapper Value}
      {rest : List (Mapper Value)} {calls : List MapperCall} {outcome : Except Error Value}
      (present : value ≠ .none) (done : (mapper.call outside value past).result = .ok next)
      (others : HandedThrough outside next (past ++ (mapper.call outside value past).trace) rest
        calls outcome) :
      HandedThrough outside value past (mapper :: rest) (⟨mapper, value, past⟩ :: calls) outcome

/-- The mappers that are called come first, in order and once each. -/
theorem HandedThrough.called {outside : Outside} {value : Value} {past : List Event}
    {mappers : List (Mapper Value)} {calls : List MapperCall} {outcome : Except Error Value}
    (handed : HandedThrough outside value past mappers calls outcome) :
    ∃ skipped, mappers = calls.map (·.mapper) ++ skipped := by
  induction handed with
  | finished => exact ⟨[], rfl⟩
  | nothing => exact ⟨_, rfl⟩
  | raised => exact ⟨_, rfl⟩
  | returned _ _ _ ih =>
    obtain ⟨skipped, rfl⟩ := ih
    exact ⟨skipped, rfl⟩

/-- There is only one way to hand a value through. -/
theorem HandedThrough.unique {outside : Outside} {value : Value} {past : List Event}
    {mappers : List (Mapper Value)} {calls others : List MapperCall}
    {outcome result : Except Error Value}
    (handed : HandedThrough outside value past mappers calls outcome)
    (again : HandedThrough outside value past mappers others result) :
    calls = others ∧ outcome = result := by
  induction handed generalizing others with
  | finished => cases again <;> exact ⟨rfl, rfl⟩
  | nothing =>
    cases again with
    | finished | nothing => exact ⟨rfl, rfl⟩
    | raised present | returned present => exact absurd rfl present
  | raised present failed =>
    cases again with
    | nothing => exact absurd rfl present
    | raised _ same =>
      cases failed.symm.trans same
      exact ⟨rfl, rfl⟩
    | returned _ done => cases failed.symm.trans done
  | returned present done _ ih =>
    cases again with
    | nothing => exact absurd rfl present
    | raised _ failed => cases done.symm.trans failed
    | returned _ same rest =>
      cases done.symm.trans same
      obtain ⟨rfl, rfl⟩ := ih rest
      exact ⟨rfl, rfl⟩

variable {outside : Outside}

namespace Mapper

variable {mapper : Mapper Value} {mappers rest : List (Mapper Value)} {value : Value}
  {past : List Event}

/-- Calls the mapper with a value, if there is one. -/
def onValue (outside : Outside) (mapper : Mapper Value) : Value → Match Value
  | .none => return .none
  | value => mapper.call outside value

theorem onValue_of_ne_none (present : value ≠ .none) :
    mapper.onValue outside value = mapper.call outside value := by
  cases value with
  | none => exact absurd rfl present
  | _ => rfl

/-- Hands a value through mappers. -/
def callAll (outside : Outside) (mappers : List (Mapper Value)) (value : Value) : Match Value :=
  mappers.foldlM (fun value mapper => mapper.onValue outside value) value

theorem callAll_cons : callAll outside (mapper :: rest) value =
    mapper.onValue outside value >>= callAll outside rest :=
  List.foldlM_cons

theorem callAll_none : callAll outside mappers .none = pure .none := by
  induction mappers with
  | nil => rfl
  | cons mapper rest ih => rw [callAll_cons, onValue, pure_bind, ih]

theorem callAll_handsThrough (mappers : List (Mapper Value)) (value : Value) (past : List Event) :
    ∃ calls,
      HandedThrough outside value past mappers calls (callAll outside mappers value past).result ∧
      (callAll outside mappers value past).trace = calls.flatMap (·.events outside) := by
  induction mappers generalizing value past with
  | nil => exact ⟨[], .finished, rfl⟩
  | cons mapper rest ih =>
    by_cases present : value = .none
    · subst present
      rw [callAll_none]
      exact ⟨[], .nothing, rfl⟩
    rw [callAll_cons, onValue_of_ne_none present, Ongoing.bind_apply]
    cases done : (mapper.call outside value past).result with
    | error error =>
      rw [Traced.bind_error done]
      exact ⟨_, .raised present done, (List.append_nil _).symm⟩
    | ok next =>
      obtain ⟨calls, handed, trace⟩ := ih next (past ++ (mapper.call outside value past).trace)
      rw [Traced.bind_ok done, trace]
      exact ⟨_, .returned present done handed, rfl⟩

/-- The mapper returns what it is given. -/
def IsIdentity (outside : Outside) (mapper : Mapper Value) : Prop :=
  ∀ value past, (mapper.call outside value past).result = .ok value

/-- The mapper does with a value what handing it through all of these does. -/
def Composes (outside : Outside) (mappers : List (Mapper Value)) (mapper : Mapper Value) : Prop :=
  ∀ value past calls outcome, value ≠ .none →
    HandedThrough outside value past mappers calls outcome →
    (mapper.call outside value past).result = outcome

theorem Composes.result (composes : mapper.Composes outside mappers) (value : Value)
    (past : List Event) : (mapper.onValue outside value past).result =
      (callAll outside mappers value past).result := by
  by_cases present : value = .none
  · subst present
    rw [callAll_none]
    rfl
  · obtain ⟨calls, handed, _⟩ := callAll_handsThrough mappers value past
    rw [onValue_of_ne_none present]
    exact composes value past calls _ present handed

theorem callAll_identities (identities : ∀ mapper ∈ mappers, mapper.IsIdentity outside)
    (value : Value) (past : List Event) :
    (callAll outside mappers value past).result = .ok value := by
  induction mappers generalizing value past with
  | nil => rfl
  | cons mapper rest ih =>
    obtain ⟨identity, others⟩ := List.forall_mem_cons.mp identities
    by_cases present : value = .none
    · subst present
      rw [callAll_none]
      rfl
    rw [callAll_cons, onValue_of_ne_none present, Ongoing.bind_apply, Traced.result_bind, identity]
    exact ih others _ _

end Mapper

namespace Lexer

open Mapper (callAll)

variable {lexer : Lexer Value} {mapper : Mapper Value} {mappers : List (Mapper Value)}
  {input : Value}

/-- Transforms the tokens of a lexer by one mapper after another. -/
def mapAll (lexer : Lexer Value) (mappers : List Value) : Except Error (Lexer Value) :=
  mappers.foldlM map lexer

/-- The tree that this builds. -/
def mappedAll (lexer : Lexer Value) (mappers : List (Mapper Value)) : Lexer Value :=
  mappers.foldl mapped lexer

theorem map_callable (callable : (Value.mapper mapper).isCallable = true) :
    lexer.map (.mapper mapper) = .ok (.mapped lexer mapper) :=
  if_pos callable

theorem mapAll_callable (callable : ∀ mapper ∈ mappers, (Value.mapper mapper).isCallable = true) :
    lexer.mapAll (mappers.map .mapper) = .ok (lexer.mappedAll mappers) := by
  induction mappers generalizing lexer with
  | nil => rfl
  | cons mapper rest ih =>
    obtain ⟨first, others⟩ := List.forall_mem_cons.mp callable
    rw [mapAll, List.map_cons, List.foldlM_cons, map_callable first]
    exact ih others

theorem depth_mappedAll : (lexer.mappedAll mappers).depth = lexer.depth + mappers.length := by
  induction mappers generalizing lexer with
  | nil => rfl
  | cons mapper rest ih =>
    calc
      (lexer.mappedAll (mapper :: rest)).depth = ((mapped lexer mapper).mappedAll rest).depth := rfl
      _ = (1 + lexer.depth) + rest.length := ih
      _ = lexer.depth + (mapper :: rest).length := by rw [List.length_cons]; omega

theorem answer_mapped (lexer : Lexer Value) (mapper : Mapper Value) (input : Value) :
    (mapped lexer mapper).answer outside input =
      lexer.answer outside input >>= mapper.onValue outside := by
  simp only [answer, run, bind_assoc, pure_bind]
  refine Ongoing.bind_congr_result fun past token found => ?_
  cases token with
  | none => rfl
  | some value =>
    simp only [bind_assoc, pure_bind, Value.getD_token?, bind_pure]
    exact (Mapper.onValue_of_ne_none (token_ne_none found)).symm

theorem answer_mappedAll (lexer : Lexer Value) (mappers : List (Mapper Value)) (input : Value) :
    (lexer.mappedAll mappers).answer outside input =
      lexer.answer outside input >>= callAll outside mappers := by
  induction mappers generalizing lexer with
  | nil => exact (bind_pure _).symm
  | cons mapper rest ih =>
    calc
      (lexer.mappedAll (mapper :: rest)).answer outside input
        = (mapped lexer mapper).answer outside input >>= callAll outside rest := ih _
      _ = lexer.answer outside input >>= fun value =>
            mapper.onValue outside value >>= callAll outside rest := by
          rw [answer_mapped, bind_assoc]
      _ = lexer.answer outside input >>= callAll outside (mapper :: rest) := by
          exact congrArg _ (funext fun _ => Mapper.callAll_cons.symm)

/-- A lexer with a chain of mappers is deeper by the number of mappers. It fails as the lexer
does, and no mapper is called then. Where the lexer returns a value, this is handed through the
mappers: they are called in order and once each, up to the first that returns `none` or raises
an error, and this decides. One mapper that does the same in a single call can take their
place; and mappers that return what they are given change no outcome. -/
theorem mapAll_hands_through (outside : Outside) (lexer : Lexer Value)
    (callable : ∀ mapper ∈ mappers, (Value.mapper mapper).isCallable = true) :
    ∃ chained, lexer.mapAll (mappers.map .mapper) = .ok chained ∧
      chained.depth = lexer.depth + mappers.length ∧
      (∀ input past error, (lexer.answer outside input past).result = .error error →
        chained.answer outside input past = lexer.answer outside input past) ∧
      (∀ input past value, (lexer.answer outside input past).result = .ok value →
        ∃ calls skipped,
          HandedThrough outside value (past ++ (lexer.answer outside input past).trace) mappers
            calls (chained.answer outside input past).result ∧
          mappers = calls.map (·.mapper) ++ skipped ∧
          (chained.answer outside input past).trace =
            (lexer.answer outside input past).trace ++ calls.flatMap (·.events outside)) ∧
      (∀ single, (Value.mapper single).isCallable = true → single.Composes outside mappers →
        ∃ fused, lexer.map (.mapper single) = .ok fused ∧
          ∀ input past, (fused.answer outside input past).result =
            (chained.answer outside input past).result) ∧
      ((∀ mapper ∈ mappers, mapper.IsIdentity outside) →
        ∀ input past, (chained.answer outside input past).result =
          (lexer.answer outside input past).result) := by
  refine ⟨_, mapAll_callable callable, depth_mappedAll, ?_, ?_, ?_, ?_⟩
  · intro input past error failed
    rw [answer_mappedAll, Ongoing.bind_apply, Traced.bind_error failed]
    exact Traced.ext rfl failed.symm
  · intro input past value done
    obtain ⟨calls, handed, trace⟩ := Mapper.callAll_handsThrough mappers value
      (past ++ (lexer.answer outside input past).trace)
    obtain ⟨skipped, split⟩ := handed.called
    rw [answer_mappedAll, Ongoing.bind_apply, Traced.bind_ok done, trace]
    exact ⟨calls, skipped, handed, split, rfl⟩
  · intro single called composes
    refine ⟨_, map_callable called, fun input past => ?_⟩
    rw [answer_mapped, answer_mappedAll]
    exact Ongoing.result_bind_congr fun value _ => composes.result value _
  · intro identities input past
    calc
      ((lexer.mappedAll mappers).answer outside input past).result
        = ((lexer.answer outside input >>= pure) past).result := by
          rw [answer_mappedAll]
          exact Ongoing.result_bind_congr fun value _ =>
            Mapper.callAll_identities identities value _
      _ = (lexer.answer outside input past).result := by rw [bind_pure]

/-- The second of these mappers is given a text that a condition would take for false, and
returns `none`; so the third one, which raises errors, is not called. -/
def stoppingAtBlank : List (Mapper Value) :=
  [.function .blank, .function .nonblank, .function .raise]

/-- The two calls that are made of them. -/
def callsUpToBlank (value : Value) (past : List Event) : List MapperCall :=
  [⟨.function .blank, value, past⟩,
    ⟨.function .nonblank, .text [], past ++ [.called .blank value]⟩]

theorem handedThrough_stoppingAtBlank {value : Value} (present : value ≠ .none)
    (past : List Event) :
    HandedThrough .nothing value past stoppingAtBlank (callsUpToBlank value past) (.ok .none) :=
  .returned present rfl (.returned Value.noConfusion rfl .nothing)

theorem none_composes_stoppingAtBlank :
    (Mapper.function .none).Composes .nothing stoppingAtBlank := by
  intro value past calls outcome present handed
  exact ((handedThrough_stoppingAtBlank present past).unique handed).2

theorem mapAll_hands_blank_through :
    let lexer : Lexer Value := .recording 0 (.constant (.int 0))
    ∃ chained, lexer.mapAll (stoppingAtBlank.map .mapper) = .ok chained ∧ chained.depth = 4 ∧
      HandedThrough .nothing (.int 0) [.recorded 0 .none] stoppingAtBlank
        (callsUpToBlank (.int 0) [.recorded 0 .none]) (.ok .none) ∧
      (chained.answer .nothing .none []).result = .ok .none ∧
      (chained.answer .nothing .none []).trace =
        [.recorded 0 .none, .called .blank (.int 0), .called .nonblank (.text [])] ∧
      ∃ fused, lexer.map (.mapper (.function .none)) = .ok fused ∧
        ∀ input past, (fused.answer .nothing input past).result =
          (chained.answer .nothing input past).result := by
  intro lexer
  have callable : ∀ mapper ∈ stoppingAtBlank, (Value.mapper mapper).isCallable = true := by
    simp [stoppingAtBlank, Value.isCallable]
  obtain ⟨chained, made, depth, _, handed, fused, _⟩ := mapAll_hands_through .nothing lexer callable
  obtain ⟨calls, _, through, _, trace⟩ := handed .none [] (.int 0) rfl
  have expected := @handedThrough_stoppingAtBlank (.int 0) Value.noConfusion [.recorded 0 .none]
  obtain ⟨rfl, result⟩ := expected.unique through
  refine ⟨chained, made, depth, expected, result.symm, trace, ?_⟩
  exact fused _ rfl none_composes_stoppingAtBlank

end Lexer

end TokenLexer
