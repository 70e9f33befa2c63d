import TokenLexer.Proofs.Regex.Running

/-!
# Searching

The search looks at each pair of an address and a position once. It finds only what a
run accepts, and it does not miss a run: what can be accepted from a pair that it has
looked at can be accepted, in fewer instructions, from a thread that is still on the
stack.

Main statements: `search_sound` and `search_complete`.
-/

namespace TokenLexer

namespace Regex

open Thread (Accepts Step placed)

variable {program : Array Instruction} {text : Text} {steps : Nat} {stack : List Thread}
  {visited : Visited} {thread next : Thread} {capture : Capture}

/-! ## What is found -/

theorem search_sound (found : search program steps stack visited = some capture) :
    ∃ thread ∈ stack, ∃ n, Accepts program n thread capture := by
  fun_induction search program steps stack visited with
  | case1 => cases found
  | case2 => cases found
  | case3 steps thread stack visited index seen ih =>
    obtain ⟨other, present, accepts⟩ := ih found
    exact ⟨other, List.mem_cons_of_mem _ present, accepts⟩
  | case4 steps thread stack visited index new none ih =>
    obtain ⟨other, present, accepts⟩ := ih found
    exact ⟨other, List.mem_cons_of_mem _ present, accepts⟩
  | case5 steps thread stack visited index new instruction at' accepting =>
    obtain ⟨rfl, atEnd⟩ := accepting
    cases found
    exact ⟨thread, List.mem_cons_self, 0, .now at' atEnd⟩
  | case6 steps thread stack visited index new instruction at' other ih =>
    obtain ⟨next, present, n, accepts⟩ := ih found
    rcases List.mem_append.mp present with follows | present
    · exact ⟨thread, List.mem_cons_self, n + 1, .later ⟨_, at', follows⟩ accepts⟩
    · exact ⟨next, List.mem_cons_of_mem _ present, n, accepts⟩

/-! ## Pairs that were looked at -/

namespace Visited

variable {index new : Nat}

theorem lt_size_of_has (fresh : visited.has new = false) : new < visited.size := by
  rw [has, Array.getD_eq_getD_getElem?] at fresh
  refine Nat.lt_of_not_le fun outside => ?_
  rw [Array.getElem?_eq_none outside] at fresh
  cases fresh

theorem has_mark (fresh : visited.has new = false) :
    (visited.mark new).has index = true ↔ index = new ∨ visited.has index = true := by
  have inside := lt_size_of_has fresh
  rw [has, mark, Array.getD_eq_getD_getElem?, Array.getElem?_setIfInBounds]
  by_cases same : new = index
  · simp [same, same ▸ inside]
  · simp [same, Ne.symm same, has, Array.getD_eq_getD_getElem?]

theorem count_mark (fresh : visited.has new = false) :
    (visited.mark new).count false + 1 = visited.count false := by
  have inside := lt_size_of_has fresh
  have unset : visited[new] = false := by simpa [has, inside] using fresh
  have present : 0 < visited.count false := Array.count_pos_iff.mpr (unset ▸ Array.getElem_mem inside)
  rw [mark, Array.setIfInBounds_def, dif_pos inside, Array.count_set]
  simp only [unset, BEq.rfl, if_true, Bool.true_beq, Bool.false_eq_true, if_false]
  omega

theorem has_none {size : Nat} (inside : index < size) : (none size).has index = false := by
  simp [none, has, inside]

end Visited

/-- Pairs with addresses in the program have different places. -/
theorem pair_inj {size i j address other : Nat} (inside : address < size) (within : other < size)
    (same : i * size + address = j * size + other) : i = j ∧ address = other := by
  have positions := congrArg (· / size) same
  have addresses := congrArg (· % size) same
  have positive : 0 < size := Nat.zero_lt_of_lt inside
  simp only [Nat.mul_comm _ size, Nat.mul_add_div positive, Nat.div_eq_of_lt inside,
    Nat.div_eq_of_lt within, Nat.add_zero] at positions
  simp only [Nat.mul_comm _ size, Nat.mul_add_mod, Nat.mod_eq_of_lt inside,
    Nat.mod_eq_of_lt within] at addresses
  exact ⟨positions, addresses⟩

/-! ## Threads in a text -/

/-- The thread stands somewhere in the text. -/
def Thread.InText (text : Text) (thread : Thread) : Prop :=
  ∃ address i opened cap, i ≤ text.length ∧ thread = placed text address i opened cap

/-- Where a thread can go does not depend on what it has captured. -/
theorem next_placed {address i opened : Nat} {cap : Capture} {instruction : Instruction}
    (follows : next ∈ (placed text address i opened cap).next instruction)
    (within : i ≤ text.length) :
    ∃ target j, j ≤ text.length ∧ (∃ last new, next = placed text target j last new) ∧
      ∀ other before, ∃ last new,
        placed text target j last new ∈ (placed text address i other before).next instruction := by
  cases instruction with
  | consume set =>
    obtain ⟨c, char, inside, rfl⟩ := Thread.mem_next_consume.mp follows
    refine ⟨address + 1, i + 1, (List.getElem?_eq_some_iff.mp char).1, ⟨_, _, rfl⟩, fun _ _ => ?_⟩
    exact ⟨_, _, Thread.mem_next_consume.mpr ⟨c, char, inside, rfl⟩⟩
  | require condition =>
    obtain ⟨holds, rfl⟩ := Thread.mem_next_require.mp follows
    refine ⟨address + 1, i, within, ⟨_, _, rfl⟩, fun _ _ => ?_⟩
    exact ⟨_, _, Thread.mem_next_require.mpr ⟨holds, rfl⟩⟩
  | openGroup =>
    obtain rfl := Thread.mem_next_openGroup.mp follows
    exact ⟨address + 1, i, within, ⟨_, _, rfl⟩, fun _ _ =>
      ⟨_, _, Thread.mem_next_openGroup.mpr rfl⟩⟩
  | closeGroup =>
    obtain rfl := Thread.mem_next_closeGroup.mp follows
    exact ⟨address + 1, i, within, ⟨_, _, rfl⟩, fun _ _ =>
      ⟨_, _, Thread.mem_next_closeGroup.mpr rfl⟩⟩
  | jump target =>
    obtain rfl := Thread.mem_next_jump.mp follows
    exact ⟨target, i, within, ⟨_, _, rfl⟩, fun _ _ => ⟨_, _, Thread.mem_next_jump.mpr rfl⟩⟩
  | split preferred other =>
    rcases Thread.mem_next_split.mp follows with rfl | rfl
    · exact ⟨preferred, i, within, ⟨_, _, rfl⟩, fun _ _ =>
        ⟨_, _, Thread.mem_next_split.mpr (Or.inl rfl)⟩⟩
    · exact ⟨other, i, within, ⟨_, _, rfl⟩, fun _ _ =>
        ⟨_, _, Thread.mem_next_split.mpr (Or.inr rfl)⟩⟩
  | accept => cases follows

/-- The thread accepts after `n` instructions, whatever it captures. -/
def Live (program : Array Instruction) (n : Nat) (thread : Thread) : Prop :=
  ∃ capture, Accepts program n thread capture

theorem Live.inside {n : Nat} (live : Live program n thread) : thread.address < program.size := by
  obtain ⟨capture, accepts⟩ := live
  obtain ⟨instruction, found⟩ := accepts.instruction
  exact (Array.getElem?_eq_some_iff.mp found).1

theorem Live.recaptured {n address i opened other : Nat} {cap before : Capture}
    (live : Live program n (placed text address i opened cap)) (within : i ≤ text.length) :
    Live program n (placed text address i other before) := by
  obtain ⟨capture, accepts⟩ := live
  induction n generalizing address i opened cap other before with
  | zero =>
    cases accepts with
    | now accepting atEnd => exact ⟨_, .now accepting atEnd⟩
  | succ n ih =>
    cases accepts with
    | later step rest =>
      obtain ⟨instruction, found, follows⟩ := step
      obtain ⟨target, j, within, ⟨last, new, rfl⟩, alike⟩ := next_placed follows within
      obtain ⟨last, new, follows⟩ := alike other before
      obtain ⟨capture, rest⟩ := @ih _ _ _ last _ new within rest
      exact ⟨capture, .later ⟨instruction, found, follows⟩ rest⟩

/-! ## What is not missed -/

/-- The state of a search: what is live at a pair that was looked at is live sooner on
the stack. -/
structure Searching (program : Array Instruction) (text : Text) (stack : List Thread)
    (visited : Visited) : Prop where
  inText : ∀ thread ∈ stack, thread.InText text
  sooner : ∀ {n address i opened cap}, address < program.size → i ≤ text.length →
    visited.has (i * program.size + address) = true →
    Live program n (placed text address i opened cap) → ∃ thread ∈ stack, ∃ m < n,
      Live program m thread

namespace Searching

/-- A thread whose pair was looked at already is not needed. -/
theorem without (searching : Searching program text (thread :: stack) visited)
    (seen : visited.has (thread.position * program.size + thread.address) = true) {n : Nat}
    (live : ∃ other ∈ thread :: stack, Live program n other) :
    ∃ other ∈ stack, ∃ m ≤ n, Live program m other := by
  induction n using Nat.strongRecOn with
  | _ n ih =>
    obtain ⟨other, present, live⟩ := live
    rcases List.mem_cons.mp present with rfl | present
    · have inside := live.inside
      obtain ⟨address, i, opened, cap, within, rfl⟩ := searching.inText _ List.mem_cons_self
      obtain ⟨next, present, m, fewer, live⟩ := searching.sooner inside within seen live
      obtain ⟨last, present, m', fewer', live⟩ := ih m fewer ⟨next, present, live⟩
      exact ⟨last, present, m', by omega, live⟩
    · exact ⟨other, present, n, Nat.le_refl n, live⟩

theorem skip (searching : Searching program text (thread :: stack) visited)
    (seen : visited.has (thread.position * program.size + thread.address) = true) :
    Searching program text stack visited where
  inText other present := searching.inText other (List.mem_cons_of_mem _ present)
  sooner inside within marked live := by
    obtain ⟨other, present, m, fewer, live⟩ := searching.sooner inside within marked live
    obtain ⟨last, present, m', fewer', live⟩ := searching.without seen ⟨other, present, live⟩
    exact ⟨last, present, m', by omega, live⟩

/-- A thread outside the program is not live. -/
theorem mem_of_outside {n : Nat} {other : Thread} (outside : program[thread.address]? = none)
    (present : other ∈ thread :: stack) (live : Live program n other) : other ∈ stack := by
  rcases List.mem_cons.mp present with rfl | present
  · rw [Array.getElem?_eq_none_iff] at outside
    exact absurd live.inside (Nat.not_lt_of_le outside)
  · exact present

theorem drop (searching : Searching program text (thread :: stack) visited)
    (outside : program[thread.address]? = none) : Searching program text stack visited where
  inText other present := searching.inText other (List.mem_cons_of_mem _ present)
  sooner inside within marked live := by
    obtain ⟨other, present, m, fewer, live⟩ := searching.sooner inside within marked live
    exact ⟨other, mem_of_outside outside present live, m, fewer, live⟩

variable {instruction : Instruction}

/-- A live thread that does not accept is followed by a live one. -/
theorem live_next {n : Nat} (found : program[thread.address]? = some instruction)
    (other : ¬(instruction = .accept ∧ thread.rest = [])) (live : Live program n thread) :
    ∃ next ∈ thread.next instruction, ∃ m < n, Live program m next := by
  obtain ⟨capture, accepts⟩ := live
  cases accepts with
  | now accepting atEnd =>
    rw [found] at accepting
    exact absurd ⟨Option.some.inj accepting, atEnd⟩ other
  | @later m _ next _ step rest =>
    obtain ⟨_, same, follows⟩ := step
    obtain rfl := Option.some.inj (found.symm.trans same)
    exact ⟨next, follows, m, Nat.lt_succ_self m, capture, rest⟩

theorem live_after {n : Nat} {last : Thread} (found : program[thread.address]? = some instruction)
    (other : ¬(instruction = .accept ∧ thread.rest = [])) (present : last ∈ thread :: stack)
    (live : Live program n last) :
    ∃ next ∈ thread.next instruction ++ stack, ∃ m ≤ n, Live program m next := by
  rcases List.mem_cons.mp present with rfl | present
  · obtain ⟨next, follows, m, fewer, live⟩ := live_next found other live
    exact ⟨next, List.mem_append_left _ follows, m, Nat.le_of_lt fewer, live⟩
  · exact ⟨last, List.mem_append_right _ present, n, Nat.le_refl n, live⟩

theorem advance (searching : Searching program text (thread :: stack) visited)
    (fresh : visited.has (thread.position * program.size + thread.address) = false)
    (found : program[thread.address]? = some instruction)
    (other : ¬(instruction = .accept ∧ thread.rest = [])) :
    Searching program text (thread.next instruction ++ stack)
      (visited.mark (thread.position * program.size + thread.address)) where
  inText next present := by
    rcases List.mem_append.mp present with follows | present
    · obtain ⟨address, i, opened, cap, within, rfl⟩ := searching.inText _ List.mem_cons_self
      obtain ⟨target, j, within, ⟨last, new, rfl⟩, _⟩ := next_placed follows within
      exact ⟨target, j, last, new, within, rfl⟩
    · exact searching.inText next (List.mem_cons_of_mem _ present)
  sooner {n address i opened cap} inside within marked live := by
    rcases (Visited.has_mark fresh).mp marked with same | marked
    · -- The pair is that of the thread itself, so the live thread is among the next ones.
      obtain ⟨address', i', opened', cap', _, rfl⟩ := searching.inText _ List.mem_cons_self
      have inside' := (Array.getElem?_eq_some_iff.mp found).1
      obtain ⟨rfl, rfl⟩ := pair_inj inside inside' same
      obtain ⟨next, follows, m, fewer, live⟩ := live_next found other (live.recaptured within)
      exact ⟨next, List.mem_append_left _ follows, m, fewer, live⟩
    · obtain ⟨last, present, m, fewer, live⟩ := searching.sooner inside within marked live
      obtain ⟨next, present, m', fewer', live⟩ := live_after found other present live
      exact ⟨next, present, m', by omega, live⟩

end Searching

theorem length_next (thread : Thread) (instruction : Instruction) :
    (thread.next instruction).length ≤ 2 := by
  cases instruction with
  | consume set =>
    simp only [Thread.next]
    split
    · split <;> simp
    · simp
  | require condition =>
    simp only [Thread.next]
    split <;> simp
  | _ => simp [Thread.next]

/-- With two steps for each pair that was not looked at yet, a live thread on the stack
makes the search succeed. -/
theorem search_complete (searching : Searching program text stack visited)
    (enough : 2 * visited.count false + stack.length ≤ steps)
    (live : ∃ thread ∈ stack, ∃ n, Live program n thread) :
    ∃ capture, search program steps stack visited = some capture := by
  fun_induction search program steps stack visited with
  | case1 stack =>
    obtain ⟨thread, present, _⟩ := live
    have empty : stack = [] := List.eq_nil_of_length_eq_zero (by omega)
    rw [empty] at present
    cases present
  | case2 =>
    obtain ⟨thread, present, _⟩ := live
    cases present
  | case3 steps thread stack visited index seen ih =>
    obtain ⟨other, present, n, live⟩ := live
    obtain ⟨last, present, m, _, live⟩ := searching.without seen ⟨other, present, live⟩
    rw [List.length_cons] at enough
    exact ih (searching.skip seen) (by omega) ⟨last, present, m, live⟩
  | case4 steps thread stack visited index new outside ih =>
    obtain ⟨other, present, n, live⟩ := live
    rw [List.length_cons] at enough
    exact ih (searching.drop outside) (by omega)
      ⟨other, Searching.mem_of_outside outside present live, n, live⟩
  | case5 steps thread stack visited index new instruction found accepting => exact ⟨_, rfl⟩
  | case6 steps thread stack visited index new instruction found other ih =>
    have fresh : visited.has index = false := Bool.eq_false_iff.mpr new
    have counted := Visited.count_mark fresh
    have few := length_next thread instruction
    obtain ⟨last, present, n, live⟩ := live
    obtain ⟨next, present, m, _, live⟩ := Searching.live_after found other present live
    rw [List.length_cons] at enough
    refine ih (searching.advance fresh found other) ?_ ⟨next, present, m, live⟩
    rw [List.length_append]
    omega

end Regex

end TokenLexer
