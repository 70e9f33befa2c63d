import Mathlib.Data.List.Perm.Basic
import TokenLexer.Proofs.Traversal
import TokenLexer.Sorting

/-!
# Runs and their values

A part of the sorting that compares some of the values with one another gives something back if
every two of these can be compared. A run is made of the values it was found among, and each of
them was compared with another one when it joined the run: so what two comparable values have in
common, all values of a run have in common.

Main statements: `gallop_among`, `insertAll_among` and `nextRun_among`.
-/

namespace TokenLexer

namespace Sorting

variable {α β γ ε κ : Type} {less : α → α → Except ε Bool} {values run rest all : List α}

/-! ## Parts of the procedure -/

/-- A part of the procedure that compares values from this list only. What it gives back is as
stated, and it gives something back if every two of the values can be compared. -/
structure Among (less : α → α → Except ε Bool) (values : List α) (part : Except ε β)
    (post : β → Prop) : Prop where
  ensures : ∀ {result}, part = .ok result → post result
  answers : (∀ a ∈ values, ∀ b ∈ values, ∃ before, less a b = .ok before) →
    ∃ result, part = .ok result

section Among

variable {part : Except ε β} {following : β → Except ε γ} {post weaker : β → Prop}
  {last : γ → Prop}

theorem Among.pure {result : β} (holds : post result) : Among less values (.ok result) post where
  ensures := by
    rintro _ ⟨⟩
    exact holds
  answers _ := ⟨result, rfl⟩

theorem Among.bind (first : Among less values part post)
    (next : ∀ middle, part = .ok middle → post middle →
      Among less values (following middle) last) :
    Among less values (part >>= following) last where
  ensures done := by
    obtain ⟨middle, found, done⟩ := bind_ok_iff.mp done
    exact (next middle found (first.ensures found)).ensures done
  answers comparable := by
    obtain ⟨middle, found⟩ := first.answers comparable
    have answered := (next middle found (first.ensures found)).answers comparable
    rwa [found]

theorem Among.compare {a b : α} (left : a ∈ values) (right : b ∈ values) :
    Among less values (less a b) fun _ => True where
  ensures _ := trivial
  answers comparable := comparable a left b right

theorem Among.negate {test : Except ε Bool} (first : Among less values test fun _ => True) :
    Among less values (do return !(← test)) fun _ => True :=
  first.bind fun _ _ _ => .pure trivial

theorem Among.mono (among : Among less values part post)
    (weaken : ∀ result, part = .ok result → post result → weaker result) :
    Among less values part weaker where
  ensures done := weaken _ done (among.ensures done)
  answers := among.answers

end Among

theorem within_of_perm (same : run.Perm all) (within : all ⊆ values) : run ⊆ values :=
  List.Subset.trans same.subset within

theorem eq_nil_of_head? (absent : ∀ a, run.head? = some a → False) : run = [] :=
  List.head?_eq_none_iff.mp (Option.eq_none_iff_forall_not_mem.mpr absent)

theorem eq_nil_of_getLast? (absent : ∀ a, run.getLast? = some a → False) : run = [] :=
  List.getLast?_eq_none_iff.mp (Option.eq_none_iff_forall_not_mem.mpr absent)

/-! ## Searching -/

section Searching

variable {side : End} {passes : α → Except ε Bool} {list : List α}

theorem End.middle_between (side : End) {low high : Nat} (some : low < high) :
    low ≤ side.middle low high ∧ side.middle low high < high := by
  cases side <;> simp only [middle] <;> omega

/-- The place that halving finds is within the bounds that it started from. -/
theorem halve_among (each : ∀ value ∈ list, Among less values (passes value) fun _ => True)
    (steps low high : Nat) :
    Among less values (halve side passes list steps low high) fun place =>
      low ≤ high → place ≤ high := by
  induction steps generalizing low high with
  | zero => exact .pure id
  | succ steps ih =>
    rw [halve]
    split
    · exact .pure id
    · next some =>
      obtain ⟨above, below⟩ := side.middle_between (Nat.lt_of_not_ge some)
      dsimp only
      split
      · next value present =>
        refine (each value (List.mem_of_getElem? present)).bind fun before _ _ => ?_
        split
        · exact (ih _ _).mono fun _ _ within _ => within (by omega)
        · exact (ih _ _).mono fun _ _ within _ => Nat.le_trans (within above) (Nat.le_of_lt below)
      · exact .pure id

/-- Halving tests a value if there are places to choose from. -/
theorem halve_tests {steps low high place : Nat} (some : low < high) (within : high ≤ list.length)
    (done : halve side passes list (steps + 1) low high = .ok place) :
    ∃ value ∈ list, ∃ before, passes value = .ok before := by
  have inside : side.middle low high < list.length :=
    Nat.lt_of_lt_of_le (side.middle_between some).2 within
  rw [halve, if_neg (by omega)] at done
  simp only [List.getElem?_eq_getElem inside] at done
  obtain ⟨before, tested, _⟩ := bind_ok_iff.mp done
  exact ⟨_, List.getElem_mem inside, before, tested⟩

theorem reach_among (each : ∀ value ∈ list, Among less values (passes value) fun _ => True)
    (steps last next : Nat) :
    Among less values (reach passes list steps last next) fun _ => True := by
  induction steps generalizing last next with
  | zero => exact .pure trivial
  | succ steps ih =>
    rw [reach]
    split
    · next value present =>
      refine (each value (List.mem_of_getElem? present)).bind fun before _ _ => ?_
      split
      · exact ih _ _
      · exact .pure trivial
    · exact .pure trivial

theorem gallop_among (each : ∀ value ∈ list, Among less values (passes value) fun _ => True) :
    Among less values (gallop side passes list) fun _ => True := by
  unfold gallop
  split
  · next first present =>
    refine (each first (List.mem_of_mem_head? present)).bind fun before _ _ => ?_
    split
    · refine (reach_among each _ _ _).bind fun bounds _ _ => ?_
      exact (halve_among each _ _ _).mono fun _ _ _ => trivial
    · exact .pure trivial
  · exact .pure trivial

theorem gallop_tests {first : α} {count : Nat}
    (done : gallop side passes (first :: list) = .ok count) :
    ∃ before, passes first = .ok before := by
  obtain ⟨before, tested, _⟩ := bind_ok_iff.mp done
  exact ⟨before, tested⟩

end Searching

/-! ## What the values of a run have in common -/

variable {kind : α → κ} {a b : α}

/-- There are values, and all of them are of one kind. -/
structure Alike (kind : α → κ) (run : List α) : Prop where
  nonempty : run ≠ []
  same : ∀ a ∈ run, ∀ b ∈ run, kind a = kind b

theorem Alike.singleton (kind : α → κ) (a : α) : Alike kind [a] where
  nonempty := List.cons_ne_nil _ _
  same b left c right := by rw [List.mem_singleton.mp left, List.mem_singleton.mp right]

theorem Alike.of_perm (alike : Alike kind run) (same : all.Perm run) : Alike kind all where
  nonempty none := alike.nonempty ((none ▸ same).symm.eq_nil)
  same a left b right := alike.same a (same.mem_iff.mp left) b (same.mem_iff.mp right)

/-- One comparison links two runs. -/
theorem Alike.append (first : Alike kind run) (second : Alike kind rest) (left : a ∈ run)
    (right : b ∈ rest) (link : kind a = kind b) : Alike kind (run ++ rest) where
  nonempty := List.append_ne_nil_of_left_ne_nil first.nonempty rest
  same := by
    have common (c : α) (member : c ∈ run ++ rest) : kind c = kind a := by
      rcases List.mem_append.mp member with early | late
      · exact first.same c early a left
      · exact (second.same c late b right).trans link.symm
    exact fun c early d late => (common c early).trans (common d late).symm

theorem Alike.cons (alike : Alike kind run) (member : b ∈ run) (link : kind a = kind b) :
    Alike kind (a :: run) :=
  (Alike.singleton kind a).append alike List.mem_cons_self member link

/-- Values that can be compared are of one kind. -/
def Respects (less : α → α → Except ε Bool) (kind : α → κ) : Prop :=
  ∀ a b before, less a b = .ok before → kind a = kind b

/-! ## Runs -/

/-- All values, cut into a run of one kind and those behind it. -/
structure Cut (kind : α → κ) (all : List α) (cut : List α × List α) : Prop where
  perm : (cut.1 ++ cut.2).Perm all
  alike : Alike kind cut.1

theorem falling_among (respects : Respects less kind) (within : run ++ rest ⊆ values)
    (alike : Alike kind run) :
    Among less values (falling less run rest) (Cut kind (run ++ rest)) := by
  fun_induction falling less run rest with
  | case1 run => exact .pure ⟨.refl _, alike⟩
  | case2 run value rest head first ih =>
    have member : head ∈ run := List.mem_of_mem_head? first
    have moved : (value :: run ++ rest).Perm (run ++ value :: rest) := List.perm_middle.symm
    refine (Among.compare (within (by simp)) (within (by simp [member]))).bind
      fun before compared _ => ?_
    split
    · have longer : Alike kind (value :: run) := alike.cons member (respects _ _ _ compared)
      refine (ih (within_of_perm moved within) longer).mono fun _ _ cut => ?_
      exact ⟨cut.perm.trans moved, cut.alike⟩
    · exact .pure ⟨.refl _, alike⟩
  | case3 run value rest => exact .pure ⟨.refl _, alike⟩

theorem rising_among (respects : Respects less kind) (within : run ++ rest ⊆ values)
    (alike : Alike kind run) :
    Among less values (rising less run rest) (Cut kind (run ++ rest)) := by
  have back {run : List α} (rest : List α) (alike : Alike kind run) :
      Cut kind (run ++ rest) (run.reverse, rest) :=
    ⟨run.reverse_perm.append_right rest, alike.of_perm run.reverse_perm⟩
  fun_induction rising less run rest with
  | case1 run => exact .pure (back [] alike)
  | case2 run value rest head first ih =>
    have member : head ∈ run := List.mem_of_mem_head? first
    have moved : (value :: run ++ rest).Perm (run ++ value :: rest) := List.perm_middle.symm
    refine (Among.compare (within (by simp)) (within (by simp [member]))).bind
      fun before compared _ => ?_
    split
    · exact .pure (back _ alike)
    · have longer : Alike kind (value :: run) := alike.cons member (respects _ _ _ compared)
      refine (ih (within_of_perm moved within) longer).mono fun _ _ cut => ?_
      exact ⟨cut.perm.trans moved, cut.alike⟩
  | case3 run value rest => exact .pure (back _ alike)

theorem insertAll_among (respects : Respects less kind) (within : run ++ rest ⊆ values)
    (alike : Alike kind run) :
    Among less values (insertAll less run rest) fun result =>
      result.Perm (run ++ rest) ∧ Alike kind result := by
  induction rest generalizing run with
  | nil =>
    rw [List.append_nil]
    exact .pure ⟨.refl _, alike⟩
  | cons value rest ih =>
    have each : ∀ other ∈ run,
        Among less values (do return !(← less value other)) fun _ => True := by
      refine fun other member => (Among.compare ?_ ?_).negate
      · exact within (by simp)
      · exact within (by simp [member])
    rw [insertAll]
    refine (halve_among each _ _ _).bind fun place found bounded => ?_
    have inserted : (run.insertIdx place value).Perm (value :: run) :=
      List.perm_insertIdx value run (bounded (Nat.zero_le _))
    have moved : (run.insertIdx place value ++ rest).Perm (run ++ value :: rest) :=
      (inserted.append_right rest).trans List.perm_middle.symm
    -- The place is searched for among the values, so there was a comparison with one of them.
    obtain ⟨other, member, _, tested⟩ : ∃ other ∈ run, ∃ before,
        (do return !(← less value other) : Except ε Bool) = .ok before := by
      cases run with
      | nil => exact (alike.nonempty rfl).elim
      | cons => exact halve_tests (Nat.succ_pos _) (Nat.le_refl _) found
    obtain ⟨_, compared, _⟩ := bind_ok_iff.mp tested
    have longer : Alike kind (run.insertIdx place value) :=
      (alike.cons member (respects _ _ _ compared)).of_perm inserted
    refine (ih (within_of_perm moved within) longer).mono fun _ _ held => ?_
    exact ⟨held.1.trans moved, held.2⟩

theorem lengthen_among (respects : Respects less kind) (least : Nat)
    (within : run ++ rest ⊆ values) (alike : Alike kind run) :
    Among less values (lengthen less least run rest) (Cut kind (run ++ rest)) := by
  have part (count : Nat) : run ++ rest.take count ⊆ run ++ rest :=
    List.append_subset.mpr ⟨List.subset_append_left ..,
      List.Subset.trans (List.take_subset count rest) (List.subset_append_right ..)⟩
  have inside : run ++ rest.take (least - run.length) ⊆ values :=
    List.Subset.trans (part _) within
  refine (insertAll_among respects inside alike).bind fun result _ held => ?_
  refine .pure ⟨(held.1.append_right _).trans (.of_eq ?_), held.2⟩
  rw [List.append_assoc, List.take_append_drop]

/-- A run that was begun is one after it has been lengthened. -/
theorem nextRun_among (respects : Respects less kind) (least : Nat) (within : all ⊆ values)
    (nonempty : all ≠ []) :
    Among less values (nextRun less least all) (Cut kind all) := by
  match all with
  | [] => exact (nonempty rfl).elim
  | [value] => exact .pure ⟨.refl _, .singleton kind value⟩
  | first :: second :: rest =>
    refine (Among.compare (within (by simp)) (within (by simp))).bind fun before compared _ => ?_
    have alike : Alike kind [second, first] :=
      (Alike.singleton kind first).cons List.mem_cons_self (respects _ _ _ compared)
    have swapped : ([second, first] ++ rest).Perm (first :: second :: rest) := .swap ..
    have inside : [second, first] ++ rest ⊆ values := within_of_perm swapped within
    have finished (cut : List α × List α) (begun : Cut kind ([second, first] ++ rest) cut) :
        Among less values (lengthen less least cut.1 cut.2) (Cut kind (first :: second :: rest)) :=
      (lengthen_among respects least (within_of_perm begun.perm inside) begun.alike).mono
        fun _ _ held => ⟨held.perm.trans (begun.perm.trans swapped), held.alike⟩
    split
    · exact (falling_among respects inside alike).bind fun cut _ begun => finished cut begun
    · exact (rising_among respects inside alike).bind fun cut _ begun => finished cut begun

end Sorting

end TokenLexer
