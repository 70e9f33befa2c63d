import Mathlib.Data.List.Basic
import TokenLexer.Probe
import TokenLexer.Proofs.Lexer.Visits

/-!
# Accounting for calls

What happens in a match are the events of the calls that it makes, each of them after those
of the calls in front of it. So a recording lexer has its old inputs and then, in the order
of the calls, those that it was called with; and a counter has its old tokens and then those
that it was called with, one count for each. This holds for any number of matches, for
probes that stand at several places of several trees, and for matches that fail.

Main statements: `Lexer.run_trace`, `Lexer.visits_timed` and `Probes.after_eq`.
-/

namespace TokenLexer

/-! ## When the calls are made -/

namespace Visit

variable {visits others : List Visit} {past : List Event}

/-- Before each call has happened what the calls in front of it leave, after what happened
before them all. -/
def Timed (past : List Event) : List Visit → Prop
  | [] => True
  | visit :: rest => visit.before = past ∧ Timed (past ++ visit.events) rest

theorem flatMap_events_under (part : Part) :
    (visits.map (·.under part)).flatMap events = visits.flatMap events := by
  rw [List.flatMap_map]
  rfl

theorem timed_under (part : Part) : Timed past (visits.map (·.under part)) ↔ Timed past visits := by
  induction visits generalizing past with
  | nil => rfl
  | cons visit rest ih => exact and_congr_right fun _ => ih

theorem timed_append : Timed past (visits ++ others) ↔
    Timed past visits ∧ Timed (past ++ visits.flatMap events) others := by
  induction visits generalizing past with
  | nil => simp [Timed]
  | cons visit rest ih => simp [Timed, ih, and_assoc]

/-- A call by which nothing happens takes no time. -/
theorem Timed.cons_silent {visit : Visit} (timed : Timed visit.before visits)
    (silent : visit.events = []) : Timed visit.before (visit :: visits) := by
  refine ⟨rfl, ?_⟩
  rwa [silent, List.append_nil]

end Visit

theorem Mapper.call_trace (outside : Outside) (mapper : Mapper Value) (value : Value)
    (past : List Event) :
    (mapper.call outside value past).trace = (mapper.visits value past).flatMap Visit.events := by
  induction mapper generalizing value past with
  | counter probe inner ih =>
    rw [visits, List.flatMap_cons, Visit.flatMap_events_under, ← ih]
    rfl
  | _ => rfl

theorem Mapper.visits_timed (mapper : Mapper Value) (value : Value) (past : List Event) :
    Visit.Timed past (mapper.visits value past) := by
  induction mapper generalizing value past with
  | counter probe inner ih => exact ⟨rfl, (Visit.timed_under _).mpr (ih _ _)⟩
  | _ => exact ⟨rfl, trivial⟩

namespace Lexer

variable (outside : Outside) (input : Value) (past : List Event)

theorem onText_trace (read : Text → Except Error (Option Value)) :
    (onText input read past).trace = [] := by
  cases input <;> rfl

theorem run_bare_trace (serial : Nat) :
    (run outside (.bare serial) input past).trace = [.asked serial input] := by
  rw [run, Ongoing.trace_bind]
  change [] ++ ((Ongoing.note (Event.asked serial input) >>= _) _).trace = _
  rw [List.nil_append, Ongoing.trace_bind]
  change [Event.asked serial input] ++ ((Ongoing.ofExcept _ >>= _) _).trace = _
  rw [Ongoing.trace_bind_silent fun _ _ => rfl]
  rfl

theorem run_mapped_trace (inner : Lexer Value) (mapper : Mapper Value) :
    (run outside (.mapped inner mapper) input past).trace =
      (inner.run outside input past).trace ++
        match (inner.run outside input past).result with
        | .ok (some token) =>
          (mapper.call outside token (past ++ (inner.run outside input past).trace)).trace
        | _ => [] := by
  rw [run, Ongoing.trace_bind]
  rcases (inner.run outside input past).result with error | none | token
  · rfl
  · rfl
  · exact congrArg _ (Ongoing.trace_bind_silent fun _ _ => rfl)

theorem run_orElse_trace (first second : Lexer Value) :
    (run outside (.orElse first second) input past).trace =
      (first.run outside input past).trace ++
        match (first.run outside input past).result with
        | .ok none => (second.run outside input (past ++ (first.run outside input past).trace)).trace
        | _ => [] := by
  rw [run, Ongoing.trace_bind]
  rcases (first.run outside input past).result with error | none | token <;> rfl

/-- The events of a match are those of the calls that it makes. -/
theorem run_trace (lexer : Lexer Value) :
    (lexer.run outside input past).trace =
      (lexer.visits outside input past).flatMap Visit.events := by
  induction lexer generalizing input past with
  | empty => exact onText_trace ..
  | pattern leaf => exact onText_trace ..
  | bare serial => exact run_bare_trace ..
  | mapped inner mapper ih =>
    rw [run_mapped_trace, visits, List.flatMap_cons, List.flatMap_append,
      Visit.flatMap_events_under, ← ih]
    refine congrArg _ ?_
    rcases (inner.run outside input past).result with error | none | token
    · rfl
    · rfl
    · rw [Visit.flatMap_events_under]
      exact Mapper.call_trace ..
  | orElse first second ihFirst ihSecond =>
    rw [run_orElse_trace, visits, List.flatMap_cons, List.flatMap_append,
      Visit.flatMap_events_under, ← ihFirst]
    refine congrArg _ ?_
    rcases (first.run outside input past).result with error | none | token
    · rfl
    · rw [Visit.flatMap_events_under, ← ihSecond]
    · rfl
  | recording probe inner ih =>
    rw [visits, List.flatMap_cons, Visit.flatMap_events_under, ← ih]
    rfl
  | constant value => rfl
  | stray value => rfl

/-- Each call comes after the events of the calls in front of it. -/
theorem visits_timed (lexer : Lexer Value) :
    Visit.Timed past (lexer.visits outside input past) := by
  induction lexer generalizing input past with
  | mapped inner mapper ih =>
    -- The mapper is called after all that happened in the match of the inner lexer.
    refine .cons_silent (Visit.timed_append.mpr ⟨(Visit.timed_under _).mpr (ih _ _), ?_⟩) rfl
    rw [Visit.flatMap_events_under, ← run_trace]
    rcases (inner.run outside input past).result with error | none | token
    · trivial
    · trivial
    · exact (Visit.timed_under _).mpr (mapper.visits_timed _ _)
  | orElse first second ihFirst ihSecond =>
    refine .cons_silent (Visit.timed_append.mpr ⟨(Visit.timed_under _).mpr (ihFirst _ _), ?_⟩) rfl
    rw [Visit.flatMap_events_under, ← run_trace]
    rcases (first.run outside input past).result with error | none | token
    · trivial
    · exact (Visit.timed_under _).mpr (ihSecond _ _)
    · trivial
  | recording probe inner ih => exact ⟨rfl, (Visit.timed_under _).mpr (ih _ _)⟩
  | _ => exact ⟨rfl, trivial⟩

end Lexer

/-! ## What the probes see of the calls -/

namespace Visit

variable {visits : List Visit}

/-- The input that the recording lexer `probe` was given by the call. -/
def recordedBy (probe : Nat) (visit : Visit) : Option Value :=
  match visit.callee with
  | .lexer (.recording other _) => if other = probe then some visit.argument else none
  | _ => none

/-- The value that the counter `probe` was given by the call. -/
def countedBy (probe : Nat) (visit : Visit) : Option Value :=
  match visit.callee with
  | .mapper (.counter other _) => if other = probe then some visit.argument else none
  | _ => none

theorem events_recordedBy (probe : Nat) (visit : Visit) :
    visit.events.filterMap (·.recordedBy probe) = (visit.recordedBy probe).toList := by
  obtain ⟨place, lexer | mapper, argument, before⟩ := visit
  · cases lexer with
    | recording other inner => by_cases same : other = probe <;>
        simp [events, recordedBy, Event.recordedBy, same]
    | _ => rfl
  · cases mapper <;> rfl

theorem events_countedBy (probe : Nat) (visit : Visit) :
    visit.events.filterMap (·.countedBy probe) = (visit.countedBy probe).toList := by
  obtain ⟨place, lexer | mapper, argument, before⟩ := visit
  · cases lexer <;> rfl
  · cases mapper with
    | counter other inner => by_cases same : other = probe <;>
        simp [events, countedBy, Event.countedBy, same]
    | _ => rfl

end Visit

namespace Probes

/-- The probes observe the calls that recording lexers and counters were given. -/
theorem observe_visits (probes : Probes) (visits : List Visit) :
    probes.observe (visits.flatMap Visit.events) =
      { calls := fun probe => probes.calls probe ++ visits.filterMap (·.recordedBy probe)
        counters := fun probe =>
          { count := (probes.counters probe).count + (visits.filterMap (·.countedBy probe)).length
            seen := (probes.counters probe).seen ++ visits.filterMap (·.countedBy probe) } } := by
  have recorded (probe : Nat) : (visits.flatMap Visit.events).filterMap (·.recordedBy probe) =
      visits.filterMap (·.recordedBy probe) := by
    rw [List.filterMap_flatMap, List.filterMap_eq_flatMap_toList]
    simp only [Visit.events_recordedBy]
  have counted (probe : Nat) : (visits.flatMap Visit.events).filterMap (·.countedBy probe) =
      visits.filterMap (·.countedBy probe) := by
    rw [List.filterMap_flatMap, List.filterMap_eq_flatMap_toList]
    simp only [Visit.events_countedBy]
  simp only [observe, recorded, counted]

end Probes

/-! ## Matches one after another -/

/-- The calls of matches that are made one after another, each of a lexer with an input. A
match that fails does not keep the next one from being made. -/
def Lexer.visitsAll (outside : Outside) : List Event → List (Lexer Value × Value) → List Visit
  | _, [] => []
  | past, (lexer, input) :: rest =>
    lexer.visits outside input past ++
      visitsAll outside (past ++ (lexer.answer outside input past).trace) rest

/-- What the probes hold after these matches. They observe one match after the other. -/
def Probes.after (outside : Outside) :
    Probes → List Event → List (Lexer Value × Value) → Probes
  | probes, _, [] => probes
  | probes, past, (lexer, input) :: rest =>
    let events := (lexer.answer outside input past).trace
    after outside (probes.observe events) (past ++ events) rest

theorem Probes.after_eq (outside : Outside) (probes : Probes) (past : List Event)
    (run : List (Lexer Value × Value)) :
    probes.after outside past run =
      probes.observe ((Lexer.visitsAll outside past run).flatMap Visit.events) := by
  -- Each match goes on from what happened before it, and from what the probes hold by then.
  induction run generalizing probes past with
  | nil => exact (probes.observe_nil).symm
  | cons call rest ih =>
    obtain ⟨lexer, input⟩ := call
    rw [after, Lexer.visitsAll, List.flatMap_append, observe_append, ih, Lexer.answer_trace,
      Lexer.run_trace]

end TokenLexer
