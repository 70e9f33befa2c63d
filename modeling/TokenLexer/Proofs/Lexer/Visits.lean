import Mathlib.Logic.Relation
import TokenLexer.Proofs.Lexer.Branches
import TokenLexer.Proofs.Traversal

/-!
# Calls made while matching

A match calls the lexers and mappers of a tree: the lexer at the root first, and then each
callee what lies below it, as far as the answers so far ask for it. `Visit.Calls` says which
call makes which; `Lexer.visits` lists the calls of a match. No object in the tree is called
twice, and the calls come in the order of the places.

Main statements: `Lexer.mem_visits_iff` and `Lexer.visits_ordered`.
-/

namespace TokenLexer

/-- Where a callee lies below the one that calls it. -/
inductive Part
  | inner
  | mapper
  | first
  | second
  deriving DecidableEq, Repr

/-- The order in which a match comes to the places in a tree: to a callee before what lies
below it, to an inner lexer before the mapper, to the first of two lexers before the second. -/
inductive Earlier : List Part → List Part → Prop
  | above (part : Part) (place : List Part) : Earlier [] (part :: place)
  | mapper (place other : List Part) : Earlier (.inner :: place) (.mapper :: other)
  | second (place other : List Part) : Earlier (.first :: place) (.second :: other)
  | within (part : Part) {place other : List Part} (earlier : Earlier place other) :
      Earlier (part :: place) (part :: other)

inductive Callee
  | lexer (lexer : Lexer Value)
  | mapper (mapper : Mapper Value)

/-- A call: the place of the callee, what it is, what it was given, and what had happened
before. -/
structure Visit where
  place : List Part
  callee : Callee
  argument : Value
  before : List Event

namespace Visit

variable {outside : Outside}

/-- The first call makes the second. -/
inductive Calls (outside : Outside) : Visit → Visit → Prop
  | inner {place : List Part} {inner : Lexer Value} {mapper : Mapper Value} {input : Value}
      {before : List Event} :
      Calls outside ⟨place, .lexer (.mapped inner mapper), input, before⟩
        ⟨place ++ [.inner], .lexer inner, input, before⟩
  | mapper {place : List Part} {inner : Lexer Value} {mapper : Mapper Value} {input : Value}
      {before : List Event} {value : Value}
      (found : (inner.answer outside input before).result = .ok value) (present : value ≠ .none) :
      Calls outside ⟨place, .lexer (.mapped inner mapper), input, before⟩
        ⟨place ++ [.mapper], .mapper mapper, value,
          before ++ (inner.answer outside input before).trace⟩
  | first {place : List Part} {first second : Lexer Value} {input : Value}
      {before : List Event} :
      Calls outside ⟨place, .lexer (.orElse first second), input, before⟩
        ⟨place ++ [.first], .lexer first, input, before⟩
  | second {place : List Part} {first second : Lexer Value} {input : Value}
      {before : List Event}
      (none : (first.answer outside input before).result = .ok .none) :
      Calls outside ⟨place, .lexer (.orElse first second), input, before⟩
        ⟨place ++ [.second], .lexer second, input,
          before ++ (first.answer outside input before).trace⟩
  | recorded {place : List Part} {probe : Nat} {inner : Lexer Value} {input : Value}
      {before : List Event} :
      Calls outside ⟨place, .lexer (.recording probe inner), input, before⟩
        ⟨place ++ [.inner], .lexer inner, input, before ++ [.recorded probe input]⟩
  | counted {place : List Part} {probe : Nat} {inner : Mapper Value} {value : Value}
      {before : List Event} :
      Calls outside ⟨place, .mapper (.counter probe inner), value, before⟩
        ⟨place ++ [.inner], .mapper inner, value, before ++ [.counted probe value]⟩

/-- The call as seen from one place further up. -/
def under (part : Part) (visit : Visit) : Visit :=
  { visit with place := part :: visit.place }

/-- What happens by the call itself, before it makes further ones. -/
def events (visit : Visit) : List Event :=
  match visit.callee with
  | .lexer (.recording probe _) => [.recorded probe visit.argument]
  | .lexer (.bare serial) => [.asked serial visit.argument]
  | .mapper (.counter probe _) => [.counted probe visit.argument]
  | .mapper (.function f) => [.called f visit.argument]
  | _ => []

end Visit

/-- The calls that calling the mapper makes, itself included. -/
def Mapper.visits : Mapper Value → Value → List Event → List Visit
  | .counter probe inner, value, before =>
    ⟨[], .mapper (.counter probe inner), value, before⟩ ::
      (visits inner value (before ++ [.counted probe value])).map (·.under .inner)
  | mapper, value, before => [⟨[], .mapper mapper, value, before⟩]

/-- The calls that a match makes, in order. -/
def Lexer.visits (outside : Outside) : Lexer Value → Value → List Event → List Visit
  | .mapped inner mapper, input, before =>
    let answered := inner.run outside input before
    ⟨[], .lexer (.mapped inner mapper), input, before⟩ ::
      ((visits outside inner input before).map (·.under .inner) ++
        match answered.result with
        | .ok (some token) =>
          (mapper.visits token (before ++ answered.trace)).map (·.under .mapper)
        | _ => [])
  | .orElse first second, input, before =>
    let answered := first.run outside input before
    ⟨[], .lexer (.orElse first second), input, before⟩ ::
      ((visits outside first input before).map (·.under .first) ++
        match answered.result with
        | .ok none =>
          (visits outside second input (before ++ answered.trace)).map (·.under .second)
        | _ => [])
  | .recording probe inner, input, before =>
    ⟨[], .lexer (.recording probe inner), input, before⟩ ::
      (visits outside inner input (before ++ [.recorded probe input])).map (·.under .inner)
  | lexer, input, before => [⟨[], .lexer lexer, input, before⟩]

namespace Lexer

variable {outside : Outside} {lexer : Lexer Value} {input value : Value} {past : List Event}

/-! ## Answers -/

theorem answer_result : (lexer.answer outside input past).result =
    (lexer.run outside input past).result.map (·.getD .none) := by
  rw [answer, Ongoing.bind_apply]
  cases done : (lexer.run outside input past).result with
  | error error => rw [Traced.bind_error done]; rfl
  | ok token => rw [Traced.bind_ok done]; rfl

theorem answer_trace :
    (lexer.answer outside input past).trace = (lexer.run outside input past).trace := by
  rw [answer, Ongoing.bind_apply]
  cases done : (lexer.run outside input past).result with
  | error error => rw [Traced.bind_error done]
  | ok token =>
    rw [Traced.bind_ok done]
    exact List.append_nil _

theorem answer_none_iff : (lexer.answer outside input past).result = .ok .none ↔
    (lexer.run outside input past).result = .ok none := by
  rw [answer_result, map_ok_iff]
  constructor
  · rintro ⟨token, done, none⟩
    cases token with
    | none => exact done
    | some value => exact (token_ne_none done none).elim
  · intro done
    exact ⟨none, done, rfl⟩

theorem answer_some_iff : (lexer.answer outside input past).result = .ok value ∧ value ≠ .none ↔
    (lexer.run outside input past).result = .ok (some value) := by
  rw [answer_result, map_ok_iff]
  constructor
  · rintro ⟨⟨token, done, same⟩, present⟩
    cases token with
    | none => exact (present same.symm).elim
    | some other => exact same ▸ done
  · intro done
    exact ⟨⟨some value, done, rfl⟩, token_ne_none done⟩

end Lexer

/-! ## Which calls are made -/

namespace Visit

variable {outside : Outside} {visit caller called : Visit}

/-- A call from below a place is one that was made below it. -/
theorem Calls.of_under {part : Part} (calls : Calls outside (caller.under part) called) :
    ∃ inside, Calls outside caller inside ∧ called = inside.under part := by
  obtain ⟨place, callee, argument, before⟩ := caller
  cases calls with
  | inner => exact ⟨_, .inner, rfl⟩
  | mapper found present => exact ⟨_, .mapper found present, rfl⟩
  | first => exact ⟨_, .first, rfl⟩
  | second none => exact ⟨_, .second none, rfl⟩
  | recorded => exact ⟨_, .recorded, rfl⟩
  | counted => exact ⟨_, .counted, rfl⟩

/-- With a call the list has those that it makes. -/
def Closed (outside : Outside) (visits : List Visit) : Prop :=
  ∀ caller ∈ visits, ∀ called, Calls outside caller called → called ∈ visits

variable {visits others : List Visit}

theorem Closed.under (closed : Closed outside visits) (part : Part) :
    Closed outside (visits.map (·.under part)) := by
  intro caller member called calls
  obtain ⟨origin, below, rfl⟩ := List.mem_map.mp member
  obtain ⟨inside, made, rfl⟩ := calls.of_under
  exact List.mem_map.mpr ⟨inside, closed origin below inside made, rfl⟩

theorem Closed.append (closed : Closed outside visits) (other : Closed outside others) :
    Closed outside (visits ++ others) := by
  intro caller member called calls
  rcases List.mem_append.mp member with member | member
  · exact List.mem_append_left _ (closed caller member called calls)
  · exact List.mem_append_right _ (other caller member called calls)

theorem Closed.cons (root : ∀ called, Calls outside visit called → called ∈ visits)
    (closed : Closed outside visits) : Closed outside (visit :: visits) := by
  intro caller member called calls
  rcases List.mem_cons.mp member with rfl | member
  · exact List.mem_cons_of_mem _ (root called calls)
  · exact List.mem_cons_of_mem _ (closed caller member called calls)

theorem Closed.single (leaf : ∀ called, ¬Calls outside visit called) : Closed outside [visit] :=
  .cons (fun called calls => (leaf called calls).elim) nofun

/-- The first call makes all calls of the list, directly or through others; their places
are those below it. -/
def MadeBy (outside : Outside) (root : Visit) (visits : List Visit) : Prop :=
  ∀ visit ∈ visits, Relation.ReflTransGen (Calls outside) root
    { visit with place := root.place ++ visit.place }

theorem MadeBy.under {root child : Visit} {part : Part} (made : MadeBy outside child visits)
    (calls : Calls outside root child) (below : child.place = root.place ++ [part]) :
    MadeBy outside root (visits.map (·.under part)) := by
  intro visit member
  obtain ⟨inside, origin, rfl⟩ := List.mem_map.mp member
  refine .head calls ?_
  have further := made inside origin
  rwa [below, List.append_assoc] at further

theorem MadeBy.append {root : Visit} (made : MadeBy outside root visits)
    (other : MadeBy outside root others) : MadeBy outside root (visits ++ others) := by
  intro visit member
  rcases List.mem_append.mp member with member | member
  · exact made visit member
  · exact other visit member

theorem MadeBy.cons {place : List Part} {callee : Callee} {argument : Value} {before : List Event}
    (made : MadeBy outside ⟨place, callee, argument, before⟩ visits) :
    MadeBy outside ⟨place, callee, argument, before⟩
      (⟨[], callee, argument, before⟩ :: visits) := by
  intro visit member
  rcases List.mem_cons.mp member with rfl | member
  · rw [List.append_nil]
  · exact made visit member

end Visit

namespace Mapper

variable {outside : Outside} {mapper : Mapper Value} {value : Value} {past : List Event}

theorem root_mem_visits : ⟨[], .mapper mapper, value, past⟩ ∈ mapper.visits value past := by
  cases mapper <;> exact List.mem_cons_self

theorem visits_closed : Visit.Closed outside (mapper.visits value past) := by
  induction mapper generalizing value past with
  | counter probe inner ih =>
    refine .cons (fun called calls => ?_) (ih.under .inner)
    cases calls
    exact List.mem_map.mpr ⟨_, root_mem_visits, rfl⟩
  | _ => exact .single nofun

theorem visits_made (place : List Part) :
    Visit.MadeBy outside ⟨place, .mapper mapper, value, past⟩ (mapper.visits value past) := by
  induction mapper generalizing value past place with
  | counter probe inner ih => exact .cons ((ih _).under .counted rfl)
  | _ => exact .cons nofun

end Mapper

namespace Lexer

variable {outside : Outside} {lexer : Lexer Value} {input : Value} {past : List Event}

theorem root_mem_visits : ⟨[], .lexer lexer, input, past⟩ ∈ lexer.visits outside input past := by
  cases lexer <;> exact List.mem_cons_self

theorem visits_closed : Visit.Closed outside (lexer.visits outside input past) := by
  -- The calls below each part are closed by induction; what the lexer itself calls comes
  -- first in the calls of a part.
  induction lexer generalizing input past with
  | mapped inner mapper ih =>
    refine .cons (fun called calls => ?_) (.append (ih.under .inner) ?_)
    · cases calls with
      | inner => exact List.mem_append_left _ (List.mem_map.mpr ⟨_, root_mem_visits, rfl⟩)
      | mapper found present =>
        rw [answer_some_iff.mp ⟨found, present⟩, answer_trace]
        exact List.mem_append_right _ (List.mem_map.mpr ⟨_, Mapper.root_mem_visits, rfl⟩)
    · split
      · exact Mapper.visits_closed.under .mapper
      · nofun
  | orElse first second ihFirst ihSecond =>
    refine .cons (fun called calls => ?_) (.append (ihFirst.under .first) ?_)
    · cases calls with
      | first => exact List.mem_append_left _ (List.mem_map.mpr ⟨_, root_mem_visits, rfl⟩)
      | second none =>
        rw [answer_none_iff.mp none, answer_trace]
        exact List.mem_append_right _ (List.mem_map.mpr ⟨_, root_mem_visits, rfl⟩)
    · split
      · exact ihSecond.under .second
      · nofun
  | recording probe inner ih =>
    refine .cons (fun called calls => ?_) (ih.under .inner)
    cases calls
    exact List.mem_map.mpr ⟨_, root_mem_visits, rfl⟩
  | _ => exact .single nofun

theorem visits_made (place : List Part) :
    Visit.MadeBy outside ⟨place, .lexer lexer, input, past⟩
      (lexer.visits outside input past) := by
  induction lexer generalizing input past place with
  | mapped inner mapper ih =>
    refine .cons (.append ((ih _).under .inner rfl) ?_)
    split
    · next token found =>
      obtain ⟨found, present⟩ := answer_some_iff.mpr found
      rw [← answer_trace]
      exact (Mapper.visits_made _).under (.mapper found present) rfl
    · nofun
  | orElse first second ihFirst ihSecond =>
    refine .cons (.append ((ihFirst _).under .first rfl) ?_)
    split
    · next none =>
      rw [← answer_trace]
      exact (ihSecond _).under (.second (answer_none_iff.mpr none)) rfl
    · nofun
  | recording probe inner ih => exact .cons ((ih _).under .recorded rfl)
  | _ => exact .cons nofun

/-- The calls of a match are those that the first call makes, directly or through others. -/
theorem mem_visits_iff {visit : Visit} : visit ∈ lexer.visits outside input past ↔
    Relation.ReflTransGen (Visit.Calls outside) ⟨[], .lexer lexer, input, past⟩ visit := by
  constructor
  · exact visits_made [] visit
  · intro reached
    induction reached with
    | refl => exact root_mem_visits
    | tail _ calls ih => exact visits_closed _ ih _ calls

end Lexer

/-! ## The order of the calls -/

theorem Earlier.irrefl {place : List Part} : ¬Earlier place place := by
  intro earlier
  induction place with
  | nil => cases earlier
  | cons part place ih =>
    cases earlier with
    | within _ earlier => exact ih earlier

namespace Visit

variable {visits others : List Visit} {visit other : Visit}

/-- The calls come in the order of their places. -/
def InOrder (visits : List Visit) : Prop :=
  visits.Pairwise fun visit other => Earlier visit.place other.place

theorem InOrder.under (ordered : InOrder visits) (part : Part) :
    InOrder (visits.map (·.under part)) :=
  List.pairwise_map.mpr (ordered.imp fun earlier => .within part earlier)

/-- In front of what lies below it stands the call itself. -/
theorem InOrder.above {callee : Callee} {argument : Value} {before : List Event}
    (ordered : InOrder visits) (below : ∀ visit ∈ visits, visit.place ≠ []) :
    InOrder (⟨[], callee, argument, before⟩ :: visits) := by
  refine List.pairwise_cons.mpr ⟨fun visit member => ?_, ordered⟩
  obtain ⟨part, place, same⟩ := List.exists_cons_of_ne_nil (below visit member)
  rw [same]
  exact .above part place

theorem InOrder.append {part following : Part}
    (earlier : ∀ place other, Earlier (part :: place) (following :: other))
    (ordered : InOrder visits) (next : InOrder others) :
    InOrder (visits.map (·.under part) ++ others.map (·.under following)) := by
  refine List.pairwise_append.mpr ⟨ordered.under part, next.under following, ?_⟩
  intro visit member other later
  obtain ⟨inside, _, rfl⟩ := List.mem_map.mp member
  obtain ⟨beside, _, rfl⟩ := List.mem_map.mp later
  exact earlier inside.place beside.place

theorem place_ne_nil_of_under {part : Part} (member : visit ∈ visits.map (·.under part)) :
    visit.place ≠ [] := by
  obtain ⟨inside, _, rfl⟩ := List.mem_map.mp member
  exact List.cons_ne_nil part inside.place

/-- No place is called twice. -/
theorem InOrder.eq_of_place (ordered : InOrder visits) (member : visit ∈ visits)
    (present : other ∈ visits) (same : visit.place = other.place) : visit = other := by
  induction visits with
  | nil => cases member
  | cons head tail ih =>
    obtain ⟨earlier, ordered⟩ := List.pairwise_cons.mp ordered
    rcases List.mem_cons.mp member with rfl | behind <;>
      rcases List.mem_cons.mp present with rfl | after
    · rfl
    · exact (Earlier.irrefl (same ▸ earlier other after)).elim
    · exact (Earlier.irrefl (same ▸ earlier visit behind)).elim
    · exact ih ordered behind after

end Visit

theorem Mapper.visits_ordered (mapper : Mapper Value) (value : Value) (past : List Event) :
    Visit.InOrder (mapper.visits value past) := by
  induction mapper generalizing value past with
  | counter probe inner ih => exact ((ih _ _).under .inner).above fun _ => Visit.place_ne_nil_of_under
  | _ => exact List.pairwise_singleton _ _

theorem Lexer.visits_ordered (outside : Outside) (lexer : Lexer Value) (input : Value)
    (past : List Event) : Visit.InOrder (lexer.visits outside input past) := by
  induction lexer generalizing input past with
  | mapped inner mapper ih =>
    simp only [visits]
    split
    · refine .above (.append Earlier.mapper (ih _ _) (mapper.visits_ordered _ _)) ?_
      exact fun visit member => (List.mem_append.mp member).elim Visit.place_ne_nil_of_under
        Visit.place_ne_nil_of_under
    · rw [List.append_nil]
      exact ((ih _ _).under .inner).above fun _ => Visit.place_ne_nil_of_under
  | orElse first second ihFirst ihSecond =>
    simp only [visits]
    split
    · refine .above (.append Earlier.second (ihFirst _ _) (ihSecond _ _)) ?_
      exact fun visit member => (List.mem_append.mp member).elim Visit.place_ne_nil_of_under
        Visit.place_ne_nil_of_under
    · rw [List.append_nil]
      exact ((ihFirst _ _).under .first).above fun _ => Visit.place_ne_nil_of_under
  | recording probe inner ih =>
    exact ((ih _ _).under .inner).above fun _ => Visit.place_ne_nil_of_under
  | _ => exact List.pairwise_singleton _ _

/-! ## The call at a place -/

namespace Visit

variable {outside : Outside} {caller called : Visit}

theorem Calls.place (calls : Calls outside caller called) :
    ∃ part, called.place = caller.place ++ [part] := by
  cases calls <;> exact ⟨_, rfl⟩

/-- No place is called twice. -/
theorem InOrder.nodup {visits : List Visit} (ordered : InOrder visits) :
    (visits.map (·.place)).Nodup := by
  refine List.pairwise_map.mpr (ordered.imp fun {visit other} earlier same => ?_)
  exact Earlier.irrefl (same ▸ earlier)

end Visit

namespace Lexer

variable {outside : Outside} {lexer inner first second : Lexer Value} {mapper : Mapper Value}
  {input argument : Value} {past before : List Event} {place : List Part} {visit : Visit}

/-- What is called just below a callee is called by this callee. -/
theorem called_iff {caller : Visit} {part : Part}
    (made : caller ∈ lexer.visits outside input past) :
    visit ∈ lexer.visits outside input past ∧ visit.place = caller.place ++ [part] ↔
      Visit.Calls outside caller visit ∧ visit.place = caller.place ++ [part] := by
  -- Any call but the first has a parent that made it. The parent stands at the caller's place,
  -- and no place is called twice.
  refine and_congr_left fun below => ⟨fun member => ?_, visits_closed _ made _⟩
  cases mem_visits_iff.mp member with
  | refl => exact (List.append_ne_nil_of_right_ne_nil _ (List.cons_ne_nil part []) below.symm).elim
  | @tail parent _ reached calls =>
    obtain ⟨other, same⟩ := calls.place
    have above : parent.place = caller.place :=
      (List.append_inj' (same.symm.trans below) rfl).1
    rw [← (visits_ordered outside lexer input past).eq_of_place (mem_visits_iff.mpr reached) made
      above]
    exact calls

/-- The second lexer of a choice is called when the first one returned `none`, with the same
input, and in no other case. -/
theorem second_called_iff
    (made : ⟨place, .lexer (.orElse first second), argument, before⟩ ∈
      lexer.visits outside input past) :
    visit ∈ lexer.visits outside input past ∧ visit.place = place ++ [.second] ↔
      (first.answer outside argument before).result = .ok .none ∧
        visit = ⟨place ++ [.second], .lexer second, argument,
          before ++ (first.answer outside argument before).trace⟩ := by
  rw [called_iff made]
  constructor
  · rintro ⟨calls, below⟩
    cases calls with
    | first => cases List.append_cancel_left below
    | second none => exact ⟨none, rfl⟩
  · rintro ⟨none, rfl⟩
    exact ⟨.second none, rfl⟩

/-- The mapper is called when the lexer returned a value other than `none`, with this value,
and in no other case. -/
theorem mapper_called_iff
    (made : ⟨place, .lexer (.mapped inner mapper), argument, before⟩ ∈
      lexer.visits outside input past) :
    visit ∈ lexer.visits outside input past ∧ visit.place = place ++ [.mapper] ↔
      ∃ value, (inner.answer outside argument before).result = .ok value ∧ value ≠ .none ∧
        visit = ⟨place ++ [.mapper], .mapper mapper, value,
          before ++ (inner.answer outside argument before).trace⟩ := by
  rw [called_iff made]
  constructor
  · rintro ⟨calls, below⟩
    cases calls with
    | inner => cases List.append_cancel_left below
    | mapper found present => exact ⟨_, found, present, rfl⟩
  · rintro ⟨value, found, present, rfl⟩
    exact ⟨.mapper found present, rfl⟩

end Lexer

end TokenLexer
