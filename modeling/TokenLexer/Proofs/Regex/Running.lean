import TokenLexer.Regex.Search
import Mathlib.Logic.Relation

/-!
# Running programs

What a program can do from a thread, without the order in which a search looks at the
choices. A run goes from thread to thread and ends where it accepts; what it captured
does not influence where it can go. Code occupies a stretch of a program when it was
laid out there, so a run that enters at the start of the stretch is told from the parts
of the code.

Main statements: `Thread.step_consume` and its likes, `Code.occupies_append` and its
likes.
-/

namespace TokenLexer

namespace Regex

namespace Thread

/-- The thread at an address and a position of a text. -/
def placed (text : Text) (address position opened : Nat) (capture : Capture) : Thread where
  address
  position
  before := if position = 0 then none else text[position - 1]?
  rest := text.drop position
  opened
  capture

/-- One thread can follow the other by one instruction of the program. -/
def Step (program : Array Instruction) (thread next : Thread) : Prop :=
  ∃ instruction, program[thread.address]? = some instruction ∧ next ∈ thread.next instruction

/-- One thread can follow the other by any number of instructions. -/
abbrev Steps (program : Array Instruction) : Thread → Thread → Prop :=
  Relation.ReflTransGen (Step program)

/-- In `Accepts program n thread capture`, the thread accepts at the end of its text
after `n` instructions, with this capture. -/
inductive Accepts (program : Array Instruction) : Nat → Thread → Capture → Prop
  | now {thread : Thread} (accepting : program[thread.address]? = some .accept)
      (atEnd : thread.rest = []) : Accepts program 0 thread thread.capture
  | later {n : Nat} {thread next : Thread} {capture : Capture} (step : Step program thread next)
      (rest : Accepts program n next capture) : Accepts program (n + 1) thread capture

variable {program : Array Instruction} {text : Text} {thread next : Thread}
  {n address i opened : Nat} {capture : Capture}

/-- A run that stands at an instruction other than acceptance goes on by it. -/
theorem Accepts.next_of {instruction : Instruction} (accepts : Accepts program n thread capture)
    (found : program[thread.address]? = some instruction) (other : instruction ≠ .accept) :
    ∃ m next, n = m + 1 ∧ next ∈ thread.next instruction ∧ Accepts program m next capture := by
  cases accepts with
  | now accepting => exact absurd (Option.some.inj (found.symm.trans accepting)) other
  | @later m _ next _ step rest =>
    obtain ⟨_, same, follows⟩ := step
    obtain rfl := Option.some.inj (found.symm.trans same)
    exact ⟨m, next, rfl, follows, rest⟩

theorem Accepts.instruction (accepts : Accepts program n thread capture) :
    ∃ instruction, program[thread.address]? = some instruction := by
  cases accepts with
  | now accepting => exact ⟨_, accepting⟩
  | later step => exact ⟨_, step.choose_spec.1⟩

theorem Steps.accepts {start : Thread} (steps : Steps program start thread)
    (accepts : Accepts program n thread capture) : ∃ m, Accepts program m start capture := by
  induction steps using Relation.ReflTransGen.head_induction_on with
  | refl => exact ⟨n, accepts⟩
  | head step _ ih =>
    obtain ⟨m, rest⟩ := ih
    exact ⟨m + 1, .later step rest⟩

/-! ## One instruction -/

theorem mem_next_consume {set : CharClass} :
    next ∈ (placed text address i opened capture).next (.consume set) ↔
      ∃ c, text[i]? = some c ∧ set.contains c = true ∧
        next = placed text (address + 1) (i + 1) opened capture := by
  cases rest : text.drop i with
  | nil =>
    have none : text[i]? = none := by rw [← List.head?_drop, rest]; rfl
    simp [placed, Thread.next, rest, none]
  | cons c others =>
    have some : text[i]? = some c := by rw [← List.head?_drop, rest]; rfl
    have behind : text.drop (i + 1) = others := by rw [← List.tail_drop, rest]; rfl
    by_cases inside : set.contains c = true
    · simp [placed, Thread.next, rest, some, behind, inside]
    · simp [placed, Thread.next, rest, some, inside]

theorem mem_next_require {condition : Anchor} :
    next ∈ (placed text address i opened capture).next (.require condition) ↔
      condition.holds (if i = 0 then none else text[i - 1]?) text[i]? = true ∧
        next = placed text (address + 1) i opened capture := by
  have ahead : (text.drop i).head? = text[i]? := List.head?_drop
  by_cases holds : condition.holds (if i = 0 then none else text[i - 1]?) text[i]? = true
  · simp [placed, Thread.next, ahead, holds, goto]
  · simp [placed, Thread.next, ahead, holds]

theorem mem_next_openGroup :
    next ∈ (placed text address i opened capture).next .openGroup ↔
      next = placed text (address + 1) i i capture := by
  simp [placed, Thread.next]

theorem mem_next_closeGroup :
    next ∈ (placed text address i opened capture).next .closeGroup ↔
      next = placed text (address + 1) i opened (some (opened, i)) := by
  simp [placed, Thread.next]

theorem mem_next_jump {target : Nat} :
    next ∈ (placed text address i opened capture).next (.jump target) ↔
      next = placed text target i opened capture := by
  simp [placed, Thread.next, goto]

theorem mem_next_split {preferred other : Nat} :
    next ∈ (placed text address i opened capture).next (.split preferred other) ↔
      next = placed text preferred i opened capture ∨ next = placed text other i opened capture := by
  simp [placed, Thread.next, goto]

theorem mem_next_choice {greedy : Bool} {inside outside : Nat} :
    next ∈ (placed text address i opened capture).next (Code.choice greedy inside outside) ↔
      next = placed text inside i opened capture ∨ next = placed text outside i opened capture := by
  cases greedy with
  | true => exact mem_next_split
  | false => exact mem_next_split.trans or_comm

end Thread

/-! ## Where code stands -/

/-- The program holds these instructions from an address on. -/
def Holds (program : Array Instruction) (start : Nat) (instructions : List Instruction) : Prop :=
  ∀ k instruction, instructions[k]? = some instruction → program[start + k]? = some instruction

namespace Holds

variable {program : Array Instruction} {start : Nat} {instruction : Instruction}
  {first second : List Instruction}

theorem nil : Holds program start [] := by
  intro k instruction found
  simp at found

theorem cons_iff : Holds program start (instruction :: first) ↔
    program[start]? = some instruction ∧ Holds program (start + 1) first := by
  constructor
  · intro holds
    refine ⟨holds 0 instruction rfl, fun k other found => ?_⟩
    rw [Nat.add_assoc, Nat.add_comm 1 k]
    exact holds (k + 1) other found
  · rintro ⟨head, tail⟩ (_ | k) other found
    · cases found
      exact head
    · rw [Nat.add_comm k 1, ← Nat.add_assoc]
      exact tail k other found

theorem append_iff : Holds program start (first ++ second) ↔
    Holds program start first ∧ Holds program (start + first.length) second := by
  induction first generalizing start with
  | nil => simp [nil]
  | cons head tail ih =>
    simp only [List.cons_append, cons_iff, ih, and_assoc, List.length_cons, Nat.add_assoc,
      Nat.add_comm 1]

end Holds

namespace Code

/-- The code, laid out from `start` on, is in the program and ends before `stop`. -/
def Occupies (program : Array Instruction) (code : Code) (start stop : Nat) : Prop :=
  stop = start + (code start).length ∧ Holds program start (code start)

variable {program : Array Instruction} {body first second : Code} {start stop : Nat}

theorem occupies_nil : Occupies program (fun _ => []) start stop ↔ stop = start := by
  simp [Occupies, Holds.nil]

theorem occupies_single {instruction : Instruction} :
    Occupies program (fun _ => [instruction]) start stop ↔
      stop = start + 1 ∧ program[start]? = some instruction := by
  simp [Occupies, Holds.cons_iff, Holds.nil]

theorem occupies_append : Occupies program (append first second) start stop ↔
    ∃ middle, Occupies program first start middle ∧ Occupies program second middle stop := by
  simp only [Occupies, append, Holds.append_iff, List.length_append]
  constructor
  · rintro ⟨rfl, head, tail⟩
    exact ⟨_, ⟨rfl, head⟩, Nat.add_assoc _ _ _ |>.symm, tail⟩
  · rintro ⟨_, ⟨rfl, head⟩, rfl, tail⟩
    exact ⟨Nat.add_assoc _ _ _, head, tail⟩

theorem occupies_optionals {greedy : Bool} {count : Nat} :
    Occupies program (optionals body greedy (count + 1)) start stop ↔
      program[start]? = some (choice greedy (start + 1) stop) ∧
        Occupies program (append body (optionals body greedy count)) (start + 1) stop := by
  simp only [Occupies, optionals, Holds.cons_iff, List.length_cons]
  constructor
  · rintro ⟨rfl, head, tail⟩
    exact ⟨by rw [head]; congr 2; omega, by omega, tail⟩
  · rintro ⟨head, rfl, tail⟩
    exact ⟨by omega, head, tail⟩

theorem occupies_atLeastOnce {greedy : Bool} :
    Occupies program (atLeastOnce body greedy) start stop ↔
      ∃ middle, Occupies program body start middle ∧
        program[middle]? = some (choice greedy start stop) ∧ stop = middle + 1 := by
  simp only [Occupies, atLeastOnce, Holds.append_iff, Holds.cons_iff, List.length_append,
    List.length_singleton]
  constructor
  · rintro ⟨rfl, inside, last, _⟩
    exact ⟨_, ⟨rfl, inside⟩, last, by omega⟩
  · rintro ⟨_, ⟨rfl, inside⟩, last, rfl⟩
    exact ⟨by omega, inside, last, Holds.nil⟩

theorem occupies_anyTimes {greedy : Bool} :
    Occupies program (anyTimes body greedy) start stop ↔
      program[start]? = some (choice greedy (start + 1) stop) ∧
        Occupies program (atLeastOnce body greedy) (start + 1) stop := by
  simp only [Occupies, anyTimes, Holds.cons_iff, List.length_cons]
  constructor
  · rintro ⟨rfl, head, tail⟩
    exact ⟨by rw [head]; congr 2; omega, by omega, tail⟩
  · rintro ⟨head, rfl, tail⟩
    exact ⟨by omega, head, tail⟩

theorem occupies_either : Occupies program (either first second) start stop ↔
    ∃ middle, program[start]? = some (.split (start + 1) (middle + 1)) ∧
      Occupies program first (start + 1) middle ∧ program[middle]? = some (.jump stop) ∧
      Occupies program second (middle + 1) stop := by
  simp only [Occupies, either, Holds.cons_iff, Holds.append_iff, List.cons_append,
    List.length_cons, List.length_append]
  constructor
  · rintro ⟨rfl, head, inside, jump, tail⟩
    refine ⟨_, head, ⟨rfl, inside⟩, ?_, by omega, tail⟩
    rw [jump]
    congr 2
    omega
  · rintro ⟨_, head, ⟨rfl, inside⟩, jump, rfl, tail⟩
    exact ⟨by omega, head, inside, jump, tail⟩

end Code

end Regex

end TokenLexer
