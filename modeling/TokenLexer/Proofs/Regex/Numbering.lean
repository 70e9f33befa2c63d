import TokenLexer.Proofs.Regex.Parsing
import TokenLexer.Proofs.Traversal
import TokenLexer.Regex.Reading

/-!
# Trees that were read

Whatever the text, a tree that was read from it has its groups numbered from 1 on in the
order of their opening brackets, and its repetitions do not ask for more than they allow.
Both hold of all trees on the way: the finished branches and pieces, from the outermost
open group to the innermost.

Main statement: `parse_sound`.
-/

namespace TokenLexer

namespace Regex

variable {parts : List Regex}

/-! ## Trees one after another -/

theorem groups_seqAll (parts : List Regex) : (seqAll parts).groups = parts.flatMap groups := by
  fun_induction seqAll parts with
  | case1 => rfl
  | case2 last => simp
  | case3 first rest _ ih => simp [groups, ih]

theorem groups_eitherOf (parts : List Regex) : (eitherOf parts).groups = parts.flatMap groups := by
  fun_induction eitherOf parts with
  | case1 => rfl
  | case2 last => simp
  | case3 first rest _ ih => simp [groups, ih]

theorem bounded_seqAll (all : ∀ r ∈ parts, r.Bounded) : (seqAll parts).Bounded := by
  fun_induction seqAll parts with
  | case1 => trivial
  | case2 last => exact all last List.mem_cons_self
  | case3 first rest _ ih =>
    exact ⟨all first List.mem_cons_self, ih fun r later => all r (List.mem_cons_of_mem _ later)⟩

theorem bounded_eitherOf (all : ∀ r ∈ parts, r.Bounded) : (eitherOf parts).Bounded := by
  fun_induction eitherOf parts with
  | case1 => trivial
  | case2 last => exact all last List.mem_cons_self
  | case3 first rest _ ih =>
    exact ⟨all first List.mem_cons_self, ih fun r later => all r (List.mem_cons_of_mem _ later)⟩

namespace Reading

/-! ## Levels -/

/-- The trees of a level, in the order of the text. -/
def Level.trees (level : Level) : List Regex :=
  level.finished.reverse ++ level.pieces.reverse

def Level.groups (level : Level) : List Nat :=
  level.trees.flatMap Regex.groups

def Level.Bounded (level : Level) : Prop :=
  ∀ r ∈ level.trees, r.Bounded

variable {level : Level} {part : Regex}

theorem Level.groups_push : (level.push part).groups = level.groups ++ part.groups := by
  simp [groups, trees, push]

theorem Level.bounded_push (bounded : level.Bounded) (alone : part.Bounded) :
    (level.push part).Bounded := by
  intro r present
  simp only [trees, push, List.reverse_cons, List.mem_append, List.mem_singleton] at present
  rcases present with finished | before | rfl
  · exact bounded r (List.mem_append_left _ finished)
  · exact bounded r (List.mem_append_right _ before)
  · exact alone

theorem Level.groups_bar : level.bar.groups = level.groups := by
  simp [groups, trees, bar, groups_seqAll]

theorem Level.bounded_bar (bounded : level.Bounded) : level.bar.Bounded := by
  intro r present
  simp only [trees, bar, List.reverse_cons, List.reverse_nil, List.append_nil, List.mem_append,
    List.mem_singleton] at present
  rcases present with finished | rfl
  · exact bounded r (List.mem_append_left _ finished)
  · exact bounded_seqAll fun r inside => bounded r (List.mem_append_right _ inside)

theorem Level.trees_bar : level.bar.trees = level.bar.finished.reverse := by
  simp [trees, bar]

theorem Level.groups_close : level.close.groups = level.groups := by
  rw [close, groups_eitherOf, ← trees_bar]
  exact groups_bar

theorem Level.bounded_close (bounded : level.Bounded) : level.close.Bounded := by
  refine bounded_eitherOf fun r present => ?_
  rw [← trees_bar] at present
  exact bounded_bar bounded r present

/-! ## States -/

/-- The groups in front of what an open group holds, and then its own number. -/
def Open.groups (inner : Open) : List Nat :=
  inner.around.groups ++ inner.index.toList

/-- The groups opened so far are numbered in order, and all trees are bounded. -/
structure State.Sound (state : State) : Prop where
  numbered : state.opened.reverse.flatMap Open.groups ++ state.level.groups =
    List.range' 1 state.groups
  bounded : state.level.Bounded
  around : ∀ inner ∈ state.opened, inner.around.Bounded

namespace State.Sound

variable {state next : State}

theorem empty : State.Sound {} :=
  ⟨rfl, nofun, nofun⟩

/-- A piece without groups is added. -/
theorem push (sound : state.Sound) (none : part.groups = []) (bounded : part.Bounded) :
    (state.push part).Sound where
  numbered := by
    rw [State.push, Level.groups_push, none, List.append_nil]
    exact sound.numbered
  bounded := Level.bounded_push sound.bounded bounded
  around := sound.around

theorem literal (sound : state.Sound) (c : CodePoint) : (state.literal c).Sound :=
  sound.push rfl trivial

theorem item (sound : state.Sound) (item : ClassItem) : (state.item item).Sound :=
  sound.push rfl trivial

theorem literals (sound : state.Sound) (text : List Char) :
    (text.foldl (fun state c => state.literal c.toNat) state).Sound := by
  induction text generalizing state with
  | nil => exact sound
  | cons c rest ih => exact ih (sound.literal c.toNat)

theorem bar (sound : state.Sound) : State.Sound { state with level := state.level.bar } where
  numbered := by
    rw [Level.groups_bar]
    exact sound.numbered
  bounded := Level.bounded_bar sound.bounded
  around := sound.around

theorem openGroup (sound : state.Sound) (inner : Flags) : (state.openGroup none inner).Sound where
  numbered := by
    simpa [State.openGroup, Open.groups, Level.groups, Level.trees] using sound.numbered
  bounded := nofun
  around := List.forall_mem_cons.mpr ⟨sound.bounded, sound.around⟩

theorem openNumbered (sound : state.Sound) : state.openNumbered.Sound where
  numbered := by
    have before := sound.numbered
    rw [State.openNumbered, List.range'_1_concat, ← before]
    simp [State.openGroup, Open.groups, Level.groups, Level.trees, Nat.add_comm 1]
  bounded := nofun
  around := List.forall_mem_cons.mpr ⟨sound.bounded, sound.around⟩

/-- The groups inside a group that closes come behind its own number. -/
theorem closeGroup? (sound : state.Sound) (closed : state.closeGroup? = some next) :
    next.Sound := by
  unfold State.closeGroup? at closed
  split at closed
  · cases closed
  · next inner others opened =>
    obtain rfl := Option.some.inj closed
    obtain ⟨numbered, bounded, around⟩ := sound
    rw [opened] at numbered around
    obtain ⟨outside, around⟩ := List.forall_mem_cons.mp around
    cases index : inner.index with
    | none =>
      refine ⟨?_, Level.bounded_push outside (Level.bounded_close bounded), around⟩
      rw [Level.groups_push, Level.groups_close, ← numbered]
      simp [Open.groups, index]
    | some number =>
      refine ⟨?_, Level.bounded_push outside (Level.bounded_close bounded), around⟩
      rw [Level.groups_push, Regex.groups, Level.groups_close, ← numbered]
      simp [Open.groups, index]

/-- Only the last piece is repeated, and only within its bounds. -/
theorem repeatLast_eq {least : Nat} {most : Option Nat} {lazily : Bool} {written : List Char}
    (done : state.repeatLast least most lazily written = .ok next) :
    ∃ last before greedy, state.level.pieces = last :: before ∧
      (∀ bound, most = some bound → least ≤ bound) ∧
      next = { state with
        level := { state.level with pieces := .repeated last least most greedy :: before }
        repeat? := written } := by
  simp only [State.repeatLast, fail, error_bind] at done
  split at done
  · cases done
  split at done
  · cases done
  next fits =>
  split at done
  · cases done
  next last before pieces =>
  split at done
  · cases done
  refine ⟨last, before, _, pieces, ?_, (Except.ok.inj done).symm⟩
  rintro bound rfl
  simp only [Option.any_some, Bool.or_eq_true, decide_eq_true_eq] at fits
  omega

theorem repeatLast {least : Nat} {most : Option Nat} {lazily : Bool} {written : List Char}
    (sound : state.Sound) (done : state.repeatLast least most lazily written = .ok next) :
    next.Sound := by
  obtain ⟨last, before, greedy, pieces, fits, rfl⟩ := repeatLast_eq done
  obtain ⟨numbered, bounded, around⟩ := sound
  refine ⟨?_, fun r present => ?_, around⟩
  · rw [← numbered]
    simp [Level.groups, Level.trees, pieces, Regex.groups]
  · rw [Level.Bounded, Level.trees, pieces] at bounded
    simp only [Level.trees, List.reverse_cons, List.mem_append, List.mem_singleton] at present
    rcases present with finished | earlier | rfl
    · exact bounded r (by simp [List.mem_reverse.mp finished])
    · exact bounded r (by simp [List.mem_reverse.mp earlier])
    · exact ⟨fits, bounded last (by simp)⟩

end State.Sound

/-! ## Reading piece by piece -/

variable {state next : State} {whole text rest : List Char}

theorem repetition_sound {least : Nat} {most : Option Nat} {behind : List Char}
    (sound : state.Sound) (done : repetition state least most text behind = .ok (next, rest)) :
    next.Sound := by
  obtain ⟨repeated, made, done⟩ := bind_ok_iff.mp done
  cases done
  exact sound.repeatLast made

theorem escape_sound (sound : state.Sound) (done : escape state text = .ok (next, rest)) :
    next.Sound := by
  unfold escape at done
  split at done
  case h_6 =>
    cases done
    exact sound.literals _
  case h_7 | h_8 =>
    obtain ⟨⟨item, behind⟩, _, done⟩ := bind_ok_iff.mp done
    cases done
    exact sound.item item
  case h_9 =>
    split at done
    · split at done
      · cases done
        exact sound.item _
      · obtain ⟨⟨c, behind⟩, _, done⟩ := bind_ok_iff.mp done
        cases done
        exact sound.literal c
    · cases done
  -- What is left are the conditions and the single characters.
  all_goals
    cases done
    exact sound.push rfl trivial

theorem piece_sound (sound : state.Sound) (done : piece whole state text = .ok (next, rest)) :
    next.Sound := by
  unfold piece at done
  have fresh : State.Sound { state with repeat? := [] } :=
    ⟨sound.numbered, sound.bounded, sound.around⟩
  dsimp only at done
  split at done
  case h_1 =>
    cases done
    exact fresh
  -- Groups, from their opening to their closing.
  case h_2 =>
    obtain ⟨⟨opening, behind⟩, _, done⟩ := bind_ok_iff.mp done
    cases opening with
    | numbered =>
      cases done
      exact fresh.openNumbered
    | plain inner =>
      cases done
      exact fresh.openGroup inner
    | flagsOnly flags =>
      cases done
      exact ⟨sound.numbered, sound.bounded, sound.around⟩
  case h_3 =>
    cases done
    exact fresh.openNumbered
  case h_4 =>
    cases done
    exact fresh.bar
  case h_5 =>
    split at done
    · next closed found =>
      cases done
      exact fresh.closeGroup? found
    · cases done
  -- Conditions and classes.
  case h_6 | h_7 | h_8 =>
    cases done
    exact fresh.push rfl trivial
  case h_9 =>
    obtain ⟨⟨set, behind⟩, _, done⟩ := bind_ok_iff.mp done
    cases done
    exact fresh.push rfl trivial
  -- Repetitions.
  case h_10 | h_11 | h_12 => exact repetition_sound sound done
  case h_13 =>
    split at done
    · exact repetition_sound sound done
    · cases done
      exact fresh.literal _
  case h_14 => exact escape_sound fresh done
  case h_15 =>
    cases done
    exact fresh.literal _

theorem pieces_sound {steps : Nat} (sound : state.Sound)
    (done : pieces whole steps state text = .ok next) : next.Sound := by
  induction steps generalizing state text with
  | zero =>
    cases done
    exact sound
  | succ steps ih =>
    unfold pieces at done
    split at done
    · cases done
      exact sound
    · obtain ⟨⟨middle, rest⟩, read, done⟩ := bind_ok_iff.mp done
      exact ih (piece_sound sound read) done

end Reading

/-- A tree that was read has its groups numbered in order and its repetitions bounded. -/
theorem parse_sound {text : List Char} {tree : Regex} (parsed : parse text = .ok tree) :
    tree.Bounded ∧ tree.groups = List.range' 1 tree.groupCount := by
  obtain ⟨state, read, parsed⟩ := bind_ok_iff.mp parsed
  have sound := Reading.pieces_sound .empty read
  split at parsed
  · next none =>
    cases parsed
    refine ⟨Reading.Level.bounded_close sound.bounded, ?_⟩
    have numbered := sound.numbered
    rw [List.isEmpty_iff.mp none] at numbered
    have same : state.level.close.groups = List.range' 1 state.groups :=
      Reading.Level.groups_close.trans numbered
    rw [← length_groups, same, List.length_range']
  · cases parsed

end Regex

end TokenLexer
