import TokenLexer.Lexer.Matching

/-!
# What a match remembers

What a lexer makes of an input may depend on what happened before, since functions and lexers
from outside may remember their calls. It depends on nothing else: what the probes saw makes
no difference. So two attempts at a match can be alike although probes see different things of
them: they have the same results and make the same calls.

Main statements: `Lexer.run_recalls`, `Match.Alike.bind` and the laws of alike matches.
-/

namespace TokenLexer

/-- Of what happened before, only the calls make a difference. -/
def Match.Recalls {α : Type} (attempt : Match α) : Prop :=
  ∀ past other : List Event, past.filter Event.isCall = other.filter Event.isCall →
    attempt past = attempt other

namespace Match

variable {α β : Type}

theorem Recalls.pure (value : α) : Recalls (Pure.pure value : Match α) := fun _ _ _ => rfl

theorem Recalls.ofExcept (result : Except Error α) : Recalls (Ongoing.ofExcept result) :=
  fun _ _ _ => rfl

theorem Recalls.bind {first : Match α} {next : α → Match β} (recalls : Recalls first)
    (each : ∀ value, Recalls (next value)) : Recalls (first >>= next) := by
  intro past other same
  rw [Ongoing.bind_apply, Ongoing.bind_apply, recalls past other same]
  refine congrArg _ (funext fun value => each value _ _ ?_)
  rw [List.filter_append, List.filter_append, same]

theorem Recalls.note (event : Event) {next : Unit → Match β} (recalls : Recalls (next ())) :
    Recalls (Ongoing.note event >>= next) :=
  .bind (fun _ _ _ => rfl) fun _ => recalls

theorem Recalls.calls {next : List Event → Match β} (each : ∀ before, Recalls (next before)) :
    Recalls (calls >>= next) := by
  refine .bind (fun past other same => ?_) each
  change (⟨[], .ok (past.filter Event.isCall)⟩ : Traced Event Error _) = ⟨[], .ok _⟩
  rw [same]

/-- After pasts with the same calls, the attempts have the same results and make the same
calls. -/
def Alike (attempt other : Match α) : Prop :=
  ∀ past before : List Event, past.filter Event.isCall = before.filter Event.isCall →
    (attempt past).result = (other before).result ∧
      (attempt past).trace.filter Event.isCall = (other before).trace.filter Event.isCall

variable {attempt first second : Match α} {next other : α → Match β}

theorem Recalls.alike (recalls : Recalls attempt) : Alike attempt attempt := by
  intro past before same
  rw [recalls past before same]
  exact ⟨rfl, rfl⟩

theorem Alike.bind (alike : Alike first second) (each : ∀ value, Alike (next value) (other value)) :
    Alike (first >>= next) (second >>= other) := by
  intro past before same
  obtain ⟨results, calls⟩ := alike past before same
  rw [Ongoing.bind_apply, Ongoing.bind_apply]
  cases done : (second before).result with
  | error error =>
    rw [done] at results
    rw [Traced.bind_error results, Traced.bind_error done]
    exact ⟨rfl, calls⟩
  | ok value =>
    rw [done] at results
    have further : (past ++ (first past).trace).filter Event.isCall =
        (before ++ (second before).trace).filter Event.isCall := by
      rw [List.filter_append, List.filter_append, same, calls]
    obtain ⟨outcomes, others⟩ := each value _ _ further
    rw [Traced.bind_ok results, Traced.bind_ok done, List.filter_append, List.filter_append, calls,
      others]
    exact ⟨outcomes, rfl⟩

/-- What a probe sees first makes no difference. -/
theorem Alike.noted {event : Event} {next : Unit → Match α} (seen : event.isCall = false)
    (alike : Alike attempt (next ())) : Alike attempt (Ongoing.note event >>= next) := by
  intro past before same
  have silent : [event].filter Event.isCall = [] := by simp [seen]
  have unchanged : past.filter Event.isCall = (before ++ [event]).filter Event.isCall := by
    rw [List.filter_append, silent, List.append_nil, same]
  obtain ⟨results, calls⟩ := alike past _ unchanged
  rw [Ongoing.bind_apply, Traced.bind_ok rfl, List.filter_append]
  exact ⟨results, calls.trans (congrArg (· ++ _) silent).symm⟩

theorem Alike.symm {other : Match α} (alike : Alike attempt other) : Alike other attempt :=
  fun past before same =>
    have ⟨results, calls⟩ := alike before past same.symm
    ⟨results.symm, calls.symm⟩

theorem Alike.noted_both {event seen : Event} {next other : Unit → Match α}
    (first : event.isCall = false) (second : seen.isCall = false)
    (alike : Alike (next ()) (other ())) :
    Alike (Ongoing.note event >>= next) (Ongoing.note seen >>= other) :=
  ((alike.noted second).symm.noted first).symm

end Match

open Match (Alike Recalls)

theorem Mapper.call_recalls (outside : Outside) (mapper : Mapper Value) (value : Value) :
    Recalls (mapper.call outside value) := by
  induction mapper generalizing value with
  | function f => exact .calls fun _ => .note _ (.ofExcept _)
  | counter probe inner ih => exact .note _ (ih value)
  | inert value => exact fun _ _ _ => rfl

namespace Lexer

theorem onText_recalls (input : Value) (read : Text → Except Error (Option Value)) :
    Recalls (onText input read) := by
  cases input <;> exact fun _ _ _ => rfl

theorem run_recalls (outside : Outside) (lexer : Lexer Value) (input : Value) :
    Recalls (lexer.run outside input) := by
  induction lexer generalizing input with
  | empty => exact onText_recalls _ _
  | pattern leaf => exact onText_recalls _ _
  | bare serial => exact .calls fun _ => .note _ (.bind (.ofExcept _) fun _ => .pure _)
  | mapped inner mapper ih =>
    refine .bind (ih input) fun token => ?_
    cases token with
    | none => exact .pure _
    | some token => exact .bind (mapper.call_recalls outside token) fun _ => .pure _
  | orElse first second ihFirst ihSecond =>
    refine .bind (ihFirst input) fun token => ?_
    cases token with
    | none => exact ihSecond input
    | some token => exact .pure _
  | recording probe inner ih => exact .note _ (ih input)
  | constant value => exact .ofExcept _
  | stray value => exact fun _ _ _ => rfl

theorem answer_recalls (outside : Outside) (lexer : Lexer Value) (input : Value) :
    Recalls (lexer.answer outside input) :=
  .bind (lexer.run_recalls outside input) fun _ => .pure _

/-! ## Matches that are alike -/

variable {outside : Outside} {input : Value}
  {inner lexer other first second front back : Lexer Value} {mapper called : Mapper Value}

theorem mapped_alike (inside : Alike (inner.run outside input) (other.run outside input))
    (mappers : ∀ token, Alike (mapper.call outside token) (called.call outside token)) :
    Alike (run outside (.mapped inner mapper) input)
      (run outside (.mapped other called) input) := by
  refine inside.bind fun token => ?_
  cases token with
  | none => exact (Recalls.pure _).alike
  | some token => exact (mappers token).bind fun _ => (Recalls.pure _).alike

theorem orElse_alike (left : Alike (first.run outside input) (front.run outside input))
    (right : Alike (second.run outside input) (back.run outside input)) :
    Alike (run outside (.orElse first second) input) (run outside (.orElse front back) input) := by
  refine left.bind fun token => ?_
  cases token with
  | none => exact right
  | some token => exact (Recalls.pure _).alike

theorem recording_alike (probe recorder : Nat)
    (inside : Alike (inner.run outside input) (other.run outside input)) :
    Alike (run outside (.recording probe inner) input)
      (run outside (.recording recorder other) input) :=
  inside.noted_both rfl rfl

theorem answer_alike (alike : Alike (lexer.run outside input) (other.run outside input)) :
    Alike (lexer.answer outside input) (other.answer outside input) :=
  alike.bind fun _ => (Recalls.pure _).alike

end Lexer

end TokenLexer
