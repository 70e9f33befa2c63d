import TokenLexer.Proofs.Regex.Parsing
import TokenLexer.Proofs.Regex.Running

/-!
# Code and parses

The code of an expression does what the expression says: a run that enters the code
leaves it at its end, and between the two lies a parse; and each parse is such a run.
This is shown once for each way to put code together, whatever the parts parse.

Main statements: `crosses_code` and `accepts_start_iff`.
-/

namespace TokenLexer

namespace Regex

open Thread (Accepts Step Steps placed)

/-- The code runs as `parse` says. Where `kept` holds, the place at which group 1 was
opened last stays as it was. -/
structure Crosses (text : Text) (code : Code) (kept : Prop) (parse : Parse) : Prop where
  runs : ∀ {program start stop i j cap new}, Code.Occupies program code start stop →
    parse i j cap new → ∀ opened, ∃ last, (kept → last = opened) ∧
      Steps program (placed text start i opened cap) (placed text stop j last new)
  leaves : ∀ {program start stop n i opened cap final}, Code.Occupies program code start stop →
    Accepts program n (placed text start i opened cap) final → ∃ m ≤ n, ∃ j last new,
      (kept → last = opened) ∧ parse i j cap new ∧
      Accepts program m (placed text stop j last new) final

namespace Crosses

variable {text : Text} {code body first second : Code} {kept less : Prop}
  {parse head tail : Parse} {greedy : Bool}

theorem weaken (crosses : Crosses text code kept parse) (fewer : less → kept) :
    Crosses text code less parse where
  runs occupies parsed opened := by
    obtain ⟨last, same, steps⟩ := crosses.runs occupies parsed opened
    exact ⟨last, fun l => same (fewer l), steps⟩
  leaves occupies accepts := by
    obtain ⟨m, fewer', j, last, new, same, parsed, rest⟩ := crosses.leaves occupies accepts
    exact ⟨m, fewer', j, last, new, fun l => same (fewer l), parsed, rest⟩

theorem congr {other : Parse} (crosses : Crosses text code kept parse)
    (same : ∀ {i j cap new}, parse i j cap new ↔ other i j cap new) :
    Crosses text code kept other where
  runs occupies parsed := crosses.runs occupies (same.mpr parsed)
  leaves occupies accepts := by
    obtain ⟨m, fewer, j, last, new, unchanged, parsed, rest⟩ := crosses.leaves occupies accepts
    exact ⟨m, fewer, j, last, new, unchanged, same.mp parsed, rest⟩

/-- No code parses nothing. -/
theorem nil : Crosses text (fun _ => []) kept fun i j cap new => i = j ∧ cap = new where
  runs occupies parsed opened := by
    obtain rfl := Code.occupies_nil.mp occupies
    obtain ⟨rfl, rfl⟩ := parsed
    exact ⟨opened, fun _ => rfl, .refl⟩
  leaves {_ _ _ n i opened cap _} occupies accepts := by
    obtain rfl := Code.occupies_nil.mp occupies
    exact ⟨n, Nat.le_refl n, i, opened, cap, fun _ => rfl, ⟨rfl, rfl⟩, accepts⟩

/-- One instruction that goes on to the next address in at most one way. -/
theorem single {instruction : Instruction} (other : instruction ≠ .accept)
    (goes : ∀ {address i opened cap next},
      next ∈ (placed text address i opened cap).next instruction ↔
        ∃ j, parse i j cap cap ∧ next = placed text (address + 1) j opened cap)
    (unchanged : ∀ {i j cap new}, parse i j cap new → new = cap) :
    Crosses text (fun _ => [instruction]) kept parse where
  runs {_ _ _ i j cap _} occupies parsed opened := by
    obtain ⟨rfl, found⟩ := Code.occupies_single.mp occupies
    obtain rfl := unchanged parsed
    exact ⟨opened, fun _ => rfl, .single ⟨_, found, goes.mpr ⟨j, parsed, rfl⟩⟩⟩
  leaves {_ _ _ _ _ opened cap _} occupies accepts := by
    obtain ⟨rfl, found⟩ := Code.occupies_single.mp occupies
    obtain ⟨m, next, rfl, follows, rest⟩ := accepts.next_of found other
    obtain ⟨j, parsed, rfl⟩ := goes.mp follows
    exact ⟨m, Nat.le_succ m, j, opened, cap, fun _ => rfl, parsed, rest⟩

theorem append (left : Crosses text first kept head) (right : Crosses text second kept tail) :
    Crosses text (Code.append first second) kept fun i k cap new =>
      ∃ j mid, head i j cap mid ∧ tail j k mid new where
  runs occupies parsed opened := by
    obtain ⟨middle, before, behind⟩ := Code.occupies_append.mp occupies
    obtain ⟨j, mid, parsedHead, parsedTail⟩ := parsed
    obtain ⟨between, sameHead, stepsHead⟩ := left.runs before parsedHead opened
    obtain ⟨last, sameTail, stepsTail⟩ := right.runs behind parsedTail between
    exact ⟨last, fun k => (sameTail k).trans (sameHead k), stepsHead.trans stepsTail⟩
  leaves occupies accepts := by
    obtain ⟨middle, before, behind⟩ := Code.occupies_append.mp occupies
    obtain ⟨m, fewer, j, between, mid, sameHead, parsedHead, rest⟩ := left.leaves before accepts
    obtain ⟨m', fewer', k, last, new, sameTail, parsedTail, rest⟩ := right.leaves behind rest
    exact ⟨m', Nat.le_trans fewer' fewer, k, last, new,
      fun k => (sameTail k).trans (sameHead k), ⟨j, mid, parsedHead, parsedTail⟩, rest⟩

theorem either (left : Crosses text first kept head) (right : Crosses text second kept tail) :
    Crosses text (Code.either first second) kept fun i j cap new =>
      head i j cap new ∨ tail i j cap new where
  runs {_ start stop i j cap new} occupies parsed opened := by
    obtain ⟨middle, split, before, jump, behind⟩ := Code.occupies_either.mp occupies
    rcases parsed with parsed | parsed
    · obtain ⟨last, same, steps⟩ := left.runs before parsed opened
      refine ⟨last, same, .head ⟨_, split, Thread.mem_next_split.mpr (Or.inl rfl)⟩ ?_⟩
      exact steps.trans (.single ⟨_, jump, Thread.mem_next_jump.mpr rfl⟩)
    · obtain ⟨last, same, steps⟩ := right.runs behind parsed opened
      exact ⟨last, same, .head ⟨_, split, Thread.mem_next_split.mpr (Or.inr rfl)⟩ steps⟩
  leaves occupies accepts := by
    obtain ⟨middle, split, before, jump, behind⟩ := Code.occupies_either.mp occupies
    obtain ⟨n, next, rfl, follows, rest⟩ := accepts.next_of split nofun
    rcases Thread.mem_next_split.mp follows with rfl | rfl
    · obtain ⟨m, fewer, j, last, new, same, parsed, rest⟩ := left.leaves before rest
      obtain ⟨m, next, rfl, follows, rest⟩ := rest.next_of jump nofun
      obtain rfl := Thread.mem_next_jump.mp follows
      exact ⟨m, by omega, j, last, new, same, Or.inl parsed, rest⟩
    · obtain ⟨m, fewer, j, last, new, same, parsed, rest⟩ := right.leaves behind rest
      exact ⟨m, by omega, j, last, new, same, Or.inr parsed, rest⟩

/-! ## Repetitions -/

theorem copies (once : Crosses text body kept parse) (count : Nat) :
    Crosses text (Code.copies body count) kept (Times parse count) := by
  induction count with
  | zero =>
    refine nil.congr ⟨?_, ?_⟩
    · rintro ⟨rfl, rfl⟩
      exact .none
    · rintro ⟨⟩
      exact ⟨rfl, rfl⟩
  | succ count ih =>
    refine (once.append ih).congr ⟨?_, ?_⟩
    · rintro ⟨j, mid, first, others⟩
      exact .more first others
    · rintro (_ | ⟨first, others⟩)
      exact ⟨_, _, first, others⟩

theorem choice_ne_accept {inside outside : Nat} : Code.choice greedy inside outside ≠ .accept := by
  cases greedy with
  | true => exact nofun
  | false => exact nofun

theorem optionals (once : Crosses text body kept parse) (count : Nat) :
    Crosses text (Code.optionals body greedy count) kept fun i j cap new =>
      ∃ rounds ≤ count, Times parse rounds i j cap new := by
  induction count with
  | zero =>
    refine (once.copies 0).congr ⟨fun rounds => ⟨0, Nat.le_refl 0, rounds⟩, ?_⟩
    rintro ⟨rounds, few, parsed⟩
    rwa [Nat.le_zero.mp few] at parsed
  | succ count ih =>
    constructor
    · rintro program start stop i j cap new occupies ⟨rounds, few, parsed⟩ opened
      obtain ⟨choice, inside⟩ := Code.occupies_optionals.mp occupies
      cases parsed with
      | none =>
        exact ⟨opened, fun _ => rfl, .single ⟨_, choice, Thread.mem_next_choice.mpr (Or.inr rfl)⟩⟩
      | more first others =>
        obtain ⟨last, same, steps⟩ := (once.append ih).runs inside
          ⟨_, _, first, _, Nat.le_of_succ_le_succ few, others⟩ opened
        exact ⟨last, same, .head ⟨_, choice, Thread.mem_next_choice.mpr (Or.inl rfl)⟩ steps⟩
    · intro program start stop n i opened cap final occupies accepts
      obtain ⟨choice, inside⟩ := Code.occupies_optionals.mp occupies
      obtain ⟨m, next, rfl, follows, rest⟩ := accepts.next_of choice choice_ne_accept
      rcases Thread.mem_next_choice.mp follows with rfl | rfl
      · obtain ⟨m', fewer, j, last, new, same, ⟨_, _, first, rounds, few, others⟩, rest⟩ :=
          (once.append ih).leaves inside rest
        exact ⟨m', by omega, j, last, new, same,
          ⟨rounds + 1, Nat.succ_le_succ few, .more first others⟩, rest⟩
      · exact ⟨m, Nat.le_succ m, i, opened, cap, fun _ => rfl, ⟨0, Nat.zero_le _, .none⟩, rest⟩

theorem atLeastOnce (once : Crosses text body kept parse) :
    Crosses text (Code.atLeastOnce body greedy) kept fun i j cap new =>
      ∃ rounds, Times parse (rounds + 1) i j cap new where
  runs {program start stop i j cap new} occupies parsed opened := by
    obtain ⟨middle, inside, choice, rfl⟩ := Code.occupies_atLeastOnce.mp occupies
    obtain ⟨rounds, parsed⟩ := parsed
    induction rounds generalizing i cap opened with
    | zero =>
      cases parsed with
      | more first others =>
        cases others
        obtain ⟨last, same, steps⟩ := once.runs inside first opened
        exact ⟨last, same,
          steps.trans (.single ⟨_, choice, Thread.mem_next_choice.mpr (Or.inr rfl)⟩)⟩
    | succ rounds ih =>
      cases parsed with
      | more first others =>
        obtain ⟨between, sameFirst, stepsFirst⟩ := once.runs inside first opened
        obtain ⟨last, same, steps⟩ := ih between others
        refine ⟨last, fun k => (same k).trans (sameFirst k), stepsFirst.trans ?_⟩
        exact .head ⟨_, choice, Thread.mem_next_choice.mpr (Or.inl rfl)⟩ steps
  leaves {program start stop n i opened cap final} occupies accepts := by
    obtain ⟨middle, inside, choice, rfl⟩ := Code.occupies_atLeastOnce.mp occupies
    -- A round may be empty, so the induction is on what is left of the run.
    induction n using Nat.strongRecOn generalizing i opened cap with
    | _ n ih =>
      obtain ⟨m, fewer, j, between, mid, sameFirst, first, rest⟩ := once.leaves inside accepts
      obtain ⟨m, next, rfl, follows, rest⟩ := rest.next_of choice choice_ne_accept
      rcases Thread.mem_next_choice.mp follows with rfl | rfl
      · obtain ⟨m', fewer', k, last, new, same, ⟨rounds, others⟩, rest⟩ := ih m (by omega) rest
        exact ⟨m', by omega, k, last, new, fun k => (same k).trans (sameFirst k),
          ⟨rounds + 1, .more first others⟩, rest⟩
      · exact ⟨m, by omega, j, between, mid, sameFirst, ⟨0, .more first .none⟩, rest⟩

theorem anyTimes (once : Crosses text body kept parse) :
    Crosses text (Code.anyTimes body greedy) kept fun i j cap new =>
      ∃ rounds, Times parse rounds i j cap new where
  runs {program start stop i j cap new} occupies parsed opened := by
    obtain ⟨choice, inside⟩ := Code.occupies_anyTimes.mp occupies
    obtain ⟨rounds, parsed⟩ := parsed
    cases rounds with
    | zero =>
      cases parsed
      exact ⟨opened, fun _ => rfl, .single ⟨_, choice, Thread.mem_next_choice.mpr (Or.inr rfl)⟩⟩
    | succ rounds =>
      obtain ⟨last, same, steps⟩ := once.atLeastOnce.runs inside ⟨rounds, parsed⟩ opened
      exact ⟨last, same, .head ⟨_, choice, Thread.mem_next_choice.mpr (Or.inl rfl)⟩ steps⟩
  leaves {program start stop n i opened cap final} occupies accepts := by
    obtain ⟨choice, inside⟩ := Code.occupies_anyTimes.mp occupies
    obtain ⟨m, next, rfl, follows, rest⟩ := accepts.next_of choice choice_ne_accept
    rcases Thread.mem_next_choice.mp follows with rfl | rfl
    · obtain ⟨m', fewer, j, last, new, same, ⟨rounds, parsed⟩, rest⟩ :=
        once.atLeastOnce.leaves inside rest
      exact ⟨m', by omega, j, last, new, same, ⟨rounds + 1, parsed⟩, rest⟩
    · exact ⟨m, Nat.le_succ m, i, opened, cap, fun _ => rfl, ⟨0, .none⟩, rest⟩

/-- A repetition goes through its body as often as its bounds allow. -/
theorem repeated (once : Crosses text body kept parse) {least : Nat} {most : Option Nat}
    (bounded : ∀ bound, most = some bound → least ≤ bound) :
    Crosses text (Code.repeated body least most greedy) kept fun i j cap new =>
      ∃ count, least ≤ count ∧ (∀ bound, most = some bound → count ≤ bound) ∧
        Times parse count i j cap new := by
  cases most with
  | none =>
    cases least with
    | zero =>
      refine once.anyTimes.congr ⟨?_, ?_⟩
      · rintro ⟨count, parsed⟩
        exact ⟨count, Nat.zero_le _, nofun, parsed⟩
      · rintro ⟨count, _, _, parsed⟩
        exact ⟨count, parsed⟩
    | succ least =>
      refine ((once.copies least).append once.atLeastOnce).congr ⟨?_, ?_⟩
      · rintro ⟨j, mid, head, rounds, tail⟩
        exact ⟨least + (rounds + 1), by omega, nofun, head.append tail⟩
      · rintro ⟨count, enough, _, parsed⟩
        obtain ⟨rounds, rfl⟩ := Nat.exists_eq_add_of_le enough
        rw [Nat.add_assoc, Nat.add_comm 1 rounds] at parsed
        obtain ⟨j, mid, head, tail⟩ := parsed.split
        exact ⟨j, mid, head, rounds, tail⟩
  | some most =>
    have ordered := bounded most rfl
    refine ((once.copies least).append (once.optionals (most - least))).congr ⟨?_, ?_⟩
    · rintro ⟨j, mid, head, rounds, few, tail⟩
      refine ⟨least + rounds, by omega, ?_, head.append tail⟩
      rintro bound ⟨⟩
      omega
    · rintro ⟨count, enough, few, parsed⟩
      obtain ⟨rounds, rfl⟩ := Nat.exists_eq_add_of_le enough
      obtain ⟨j, mid, head, tail⟩ := parsed.split
      have fewer := few most rfl
      exact ⟨j, mid, head, rounds, by omega, tail⟩

/-! ## Groups -/

/-- Group 1 captures the stretch of its body, which does not open the group again. -/
theorem groupOne (inside : Crosses text body True parse) :
    Crosses text (Code.append (fun _ => [.openGroup]) (Code.append body fun _ => [.closeGroup]))
      False fun i j cap new => ∃ mid, parse i j cap mid ∧ new = some (i, j) where
  runs {program start stop i j cap new} occupies parsed opened := by
    obtain ⟨entry, open', occupies⟩ := Code.occupies_append.mp occupies
    obtain ⟨rfl, opens⟩ := Code.occupies_single.mp open'
    obtain ⟨exit, between, close⟩ := Code.occupies_append.mp occupies
    obtain ⟨rfl, closes⟩ := Code.occupies_single.mp close
    obtain ⟨mid, parsed, rfl⟩ := parsed
    obtain ⟨last, same, steps⟩ := inside.runs between parsed i
    obtain rfl := same trivial
    refine ⟨last, nofun, .head ⟨_, opens, Thread.mem_next_openGroup.mpr rfl⟩ ?_⟩
    exact steps.trans (.single ⟨_, closes, Thread.mem_next_closeGroup.mpr rfl⟩)
  leaves {program start stop n i opened cap final} occupies accepts := by
    obtain ⟨entry, open', occupies⟩ := Code.occupies_append.mp occupies
    obtain ⟨rfl, opens⟩ := Code.occupies_single.mp open'
    obtain ⟨exit, between, close⟩ := Code.occupies_append.mp occupies
    obtain ⟨rfl, closes⟩ := Code.occupies_single.mp close
    obtain ⟨n, next, rfl, follows, rest⟩ := accepts.next_of opens nofun
    obtain rfl := Thread.mem_next_openGroup.mp follows
    obtain ⟨m, fewer, j, last, mid, same, parsed, behind⟩ := inside.leaves between rest
    obtain rfl := same trivial
    obtain ⟨m, next, rfl, follows, rest⟩ := behind.next_of closes nofun
    obtain rfl := Thread.mem_next_closeGroup.mp follows
    exact ⟨m, by omega, j, last, _, nofun, ⟨mid, parsed, rfl⟩, rest⟩

end Crosses

/-! ## The code of an expression -/

variable {text : Text} {r : Regex}

/-- The code of an expression runs as the expression parses. -/
theorem crosses_code (bounded : r.Bounded) (distinct : r.groups.Nodup) :
    Crosses text (code r) (1 ∉ r.groups) (Matches text r) := by
  induction r with
  | empty =>
    refine Crosses.nil.congr ⟨?_, ?_⟩
    · rintro ⟨rfl, rfl⟩
      exact .empty
    · rintro ⟨⟩
      exact ⟨rfl, rfl⟩
  | chars set =>
    refine .single nofun (Thread.mem_next_consume.trans ⟨?_, ?_⟩) ?_
    · rintro ⟨c, char, inside, rfl⟩
      exact ⟨_, .chars char inside, rfl⟩
    · rintro ⟨_, parsed, rfl⟩
      cases parsed with
      | chars char inside => exact ⟨_, char, inside, rfl⟩
    · rintro _ _ _ _ ⟨⟩
      rfl
  | anchor condition =>
    refine .single nofun (Thread.mem_next_require.trans ⟨?_, ?_⟩) ?_
    · rintro ⟨holds, rfl⟩
      exact ⟨_, .anchor holds, rfl⟩
    · rintro ⟨_, parsed, rfl⟩
      cases parsed with
      | anchor holds => exact ⟨holds, rfl⟩
    · rintro _ _ _ _ ⟨⟩
      rfl
  | seq first second ihFirst ihSecond =>
    obtain ⟨distinctFirst, distinctSecond, _⟩ := List.nodup_append.mp distinct
    have left := (ihFirst bounded.1 distinctFirst).weaken
      (mt (List.mem_append_left second.groups))
    have right := (ihSecond bounded.2 distinctSecond).weaken
      (mt (List.mem_append_right first.groups))
    refine (left.append right).congr ⟨?_, ?_⟩
    · rintro ⟨j, mid, head, tail⟩
      exact .seq head tail
    · rintro ⟨⟩
      exact ⟨_, _, ‹_›, ‹_›⟩
  | either first second ihFirst ihSecond =>
    obtain ⟨distinctFirst, distinctSecond, _⟩ := List.nodup_append.mp distinct
    have left := (ihFirst bounded.1 distinctFirst).weaken
      (mt (List.mem_append_left second.groups))
    have right := (ihSecond bounded.2 distinctSecond).weaken
      (mt (List.mem_append_right first.groups))
    refine (left.either right).congr ⟨?_, ?_⟩
    · rintro (chosen | chosen)
      · exact .left chosen
      · exact .right chosen
    · rintro (_ | _)
      · exact Or.inl ‹_›
      · exact Or.inr ‹_›
  | repeated body least most greedy ih =>
    exact ((ih bounded.2 distinct).repeated bounded.1).congr matches_repeated_iff.symm
  | group index body ih =>
    obtain ⟨fresh, distinct⟩ := List.nodup_cons.mp distinct
    have inside := ih bounded distinct
    by_cases one : index = 1
    · subst one
      refine ((inside.weaken fun _ => fresh).groupOne.congr ⟨?_, ?_⟩).weaken ?_
      · rintro ⟨mid, parsed, rfl⟩
        exact .group parsed
      · rintro ⟨⟩
        exact ⟨_, ‹_›, rfl⟩
      · exact fun none => none List.mem_cons_self
    · rw [code, if_neg one]
      refine (inside.congr ⟨?_, ?_⟩).weaken fun none one =>
        none (List.mem_cons_of_mem index one)
      · intro parsed
        have whole := @Matches.group _ index _ _ _ _ _ parsed
        rwa [if_neg one] at whole
      · rintro ⟨⟩
        rw [if_neg one]
        exact ‹_›

/-- The program of an expression, started on a text, accepts just with what the parses
of the whole text capture. -/
theorem accepts_start_iff (bounded : r.Bounded) (distinct : r.groups.Nodup) {capture : Capture} :
    (∃ n, Accepts r.program n (.start text) capture) ↔
      Matches text r 0 text.length none capture := by
  have held : Holds r.program 0 (code r 0 ++ [.accept]) := by
    intro k instruction found
    simpa [program] using found
  obtain ⟨front, back⟩ := Holds.append_iff.mp held
  have occupies : Code.Occupies r.program (code r) 0 (code r 0).length := ⟨by simp, front⟩
  have accepting : r.program[(code r 0).length]? = some .accept := by
    simpa using (Holds.cons_iff.mp back).1
  have crosses := @crosses_code text r bounded distinct
  constructor
  · rintro ⟨n, accepts⟩
    obtain ⟨m, _, j, last, new, _, parsed, rest⟩ := crosses.leaves occupies accepts
    cases rest with
    | now _ atEnd =>
      have within := parsed.within.2 (Nat.zero_le _)
      have reached := List.drop_eq_nil_iff.mp atEnd
      rwa [Nat.le_antisymm within reached] at parsed
    | later step =>
      obtain ⟨_, same, follows⟩ := step
      obtain rfl := Option.some.inj (accepting.symm.trans same)
      cases follows
  · intro parsed
    obtain ⟨last, _, steps⟩ := crosses.runs occupies parsed 0
    exact Thread.Steps.accepts steps (.now accepting (List.drop_length))

end Regex

end TokenLexer
