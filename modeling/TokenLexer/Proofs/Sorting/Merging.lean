import TokenLexer.Proofs.Sorting.Runs

/-!
# What sorting gives back

Sorting compares the values with one another and gives back the same values. It does not fail
if every two of them can be compared. If it does not fail, the comparisons that were made link
all values, so that what two comparable values have in common all of them have in common.

Main statements: `sort_among` and `sort_compares`.
-/

namespace TokenLexer

namespace Sorting

variable {α ε κ : Type} {less : α → α → Except ε Bool} {values run rest all : List α}
  {kind : α → κ} {a b : α}

/-! ## Merging two runs -/

section Merging

variable {side : End} {merging : Merging α}

/-- How many values have not been taken. -/
def Merging.left (merging : Merging α) : Nat :=
  merging.kept.length + merging.other.length

/-- The values are the same, and none that was taken has been given back. -/
structure Merging.Advances (merging later : Merging α) : Prop where
  perm : later.values.Perm merging.values
  left : later.left ≤ merging.left

theorem Merging.Advances.refl (merging : Merging α) : merging.Advances merging :=
  ⟨.refl _, Nat.le_refl _⟩

theorem Merging.Advances.trans {middle later : Merging α} (first : merging.Advances middle)
    (second : middle.Advances later) : merging.Advances later :=
  ⟨second.perm.trans first.perm, Nat.le_trans second.left first.left⟩

theorem Merging.takeKept_advances (count : Nat) (merging : Merging α) :
    merging.Advances (merging.takeKept count) := by
  refine ⟨?_, ?_⟩
  · simp only [values, takeKept, List.reverse_append, List.reverse_reverse, List.append_assoc]
    have crossed : (merging.kept.take count ++ (merging.other ++ merging.kept.drop count)).Perm
        (merging.other ++ (merging.kept.take count ++ merging.kept.drop count)) :=
      List.perm_append_comm_assoc ..
    rw [List.take_append_drop] at crossed
    exact crossed.append_left _
  · simp only [left, takeKept, List.length_drop]
    omega

theorem Merging.takeOther_values (count : Nat) (merging : Merging α) :
    (merging.takeOther count).values = merging.values := by
  simp only [values, takeOther, List.reverse_append, List.reverse_reverse, List.append_assoc]
  rw [← List.append_assoc (List.take ..), List.take_append_drop]

theorem Merging.takeOther_advances (count : Nat) (merging : Merging α) :
    merging.Advances (merging.takeOther count) := by
  refine ⟨.of_eq (takeOther_values count merging), ?_⟩
  simp only [left, takeOther, List.length_drop]
  omega

theorem Merging.kept_subset (merging : Merging α) : merging.kept ⊆ merging.values := by
  simp [values]

theorem Merging.other_subset (merging : Merging α) : merging.other ⊆ merging.values := by
  intro value
  simp +contextual [values]

theorem ahead_among (side : End) {other kept : α} (left : other ∈ values) (right : kept ∈ values) :
    Among less values (ahead less side other kept) fun _ => True := by
  cases side with
  | front => exact .compare left right
  | back => exact .compare right left

theorem oneByOne_among (side : End) (patience steps keptWins otherWins : Nat)
    (within : merging.values ⊆ values) :
    Among less values (oneByOne less side patience steps keptWins otherWins merging)
      merging.Advances := by
  induction steps generalizing keptWins otherWins merging with
  | zero => exact .pure (.refl _)
  | succ steps ih =>
    rw [oneByOne]
    split
    · next kept first =>
      split
      · next other next =>
        have left : other ∈ values :=
          within (merging.other_subset (List.mem_of_mem_head? next))
        have right : kept ∈ values := within (merging.kept_subset (List.mem_of_mem_head? first))
        have goOn {later : Merging α} (taken : merging.Advances later) (wins losses : Nat) :
            Among less values (oneByOne less side patience steps wins losses later)
              merging.Advances :=
          (ih _ _ (within_of_perm taken.perm within)).mono fun _ _ rest => taken.trans rest
        refine (ahead_among side left right).bind fun before _ _ => ?_
        split
        · dsimp only
          split
          · exact .pure (merging.takeOther_advances 1)
          · exact goOn (merging.takeOther_advances 1) _ _
        · dsimp only
          split
          · exact .pure (merging.takeKept_advances 1)
          · exact goOn (merging.takeKept_advances 1) _ _
      · exact .pure (.refl _)
    · exact .pure (.refl _)

theorem keptHalf_among (side : End) (within : merging.values ⊆ values) :
    Among less values (keptHalf less side merging) (merging.Advances ·.2) := by
  unfold keptHalf
  split
  · next other next =>
    have left : other ∈ values := within (merging.other_subset (List.mem_of_mem_head? next))
    refine (gallop_among fun kept member => ?_).bind fun count _ _ => .pure ?_
    · have right : kept ∈ values := within (merging.kept_subset member)
      exact (ahead_among side left right).negate
    · have taken := merging.takeKept_advances count
      dsimp only
      split
      · exact taken
      · exact taken.trans (Merging.takeOther_advances 1 _)
  · exact .pure (.refl _)

theorem otherHalf_among (side : End) (within : merging.values ⊆ values) :
    Among less values (otherHalf less side merging) (merging.Advances ·.2) := by
  unfold otherHalf
  split
  · next kept first =>
    have right : kept ∈ values := within (merging.kept_subset (List.mem_of_mem_head? first))
    refine (gallop_among fun other member => ?_).bind fun count _ _ => .pure ?_
    · exact ahead_among side (within (merging.other_subset member)) right
    · have taken := merging.takeOther_advances count
      dsimp only
      split
      · exact taken
      · exact taken.trans (Merging.takeKept_advances 1 _)
  · exact .pure (.refl _)

theorem firstHalf_among (side : End) (within : merging.values ⊆ values) :
    Among less values (firstHalf less side merging) (merging.Advances ·.2) := by
  cases side with
  | front => exact keptHalf_among .front within
  | back => exact otherHalf_among .back within

theorem secondHalf_among (side : End) (within : merging.values ⊆ values) :
    Among less values (secondHalf less side merging) (merging.Advances ·.2) := by
  cases side with
  | front => exact otherHalf_among .front within
  | back => exact keptHalf_among .back within

theorem galloping_among (side : End) (steps patience : Nat) (within : merging.values ⊆ values) :
    Among less values (galloping less side steps patience merging) (merging.Advances ·.1) := by
  induction steps generalizing patience merging with
  | zero => exact .pure (.refl _)
  | succ steps ih =>
    rw [galloping]
    refine (firstHalf_among side within).bind fun ⟨count, middle⟩ _ half => ?_
    dsimp only at half ⊢
    split
    · exact .pure half
    · refine (secondHalf_among side (within_of_perm half.perm within)).bind
        fun ⟨more, later⟩ _ whole => ?_
      have taken : merging.Advances later := half.trans whole
      dsimp only
      split
      · exact .pure taken
      · split
        · exact (ih _ (within_of_perm taken.perm within)).mono fun _ _ rest => taken.trans rest
        · exact .pure taken

theorem mergeOn_among (side : End) (steps patience : Nat) (within : merging.values ⊆ values) :
    Among less values (mergeOn less side steps patience merging) (merging.Advances ·.1) := by
  induction steps generalizing patience merging with
  | zero => exact .pure (.refl _)
  | succ steps ih =>
    rw [mergeOn]
    split
    · exact .pure (.refl _)
    · refine (oneByOne_among side _ _ _ _ within).bind fun middle _ slow => ?_
      dsimp only
      split
      · exact .pure slow
      · refine (galloping_among side _ _ (within_of_perm slow.perm within)).bind
          fun ⟨later, shorter⟩ _ fast => ?_
        have taken : merging.Advances later := slow.trans fast
        exact (ih _ (within_of_perm taken.perm within)).mono fun _ _ rest => taken.trans rest

theorem mergeFrom_among (side : End) (patience : Nat) {kept other : List α}
    (within : other ++ kept ⊆ values) :
    Among less values (mergeFrom less side patience kept other)
      (·.1.Perm (other ++ kept)) := by
  have start : ((Merging.mk [] kept other).takeOther 1).values = other ++ kept :=
    Merging.takeOther_values 1 _
  refine (mergeOn_among side _ _ (start ▸ within)).bind fun ⟨merging, patience⟩ _ taken => ?_
  exact .pure (start ▸ taken.perm)

end Merging

section Runs

variable {first second left right : List α}

theorem mergeShorter_among (patience : Nat) (within : left ++ right ⊆ values) :
    Among less values (mergeShorter less patience left right) (·.1.Perm (left ++ right)) := by
  unfold mergeShorter
  split
  · have crossed : (right ++ left).Perm (left ++ right) := List.perm_append_comm
    refine (mergeFrom_among .front patience (within_of_perm crossed within)).mono fun _ _ same => ?_
    exact same.trans crossed
  · have turned : (left.reverse ++ right.reverse).Perm (left ++ right) :=
      left.reverse_perm.append right.reverse_perm
    refine (mergeFrom_among .back patience (within_of_perm turned within)).bind
      fun merged _ same => .pure ?_
    exact merged.1.reverse_perm.trans (same.trans turned)

theorem mergeRuns_perm (patience : Nat) (within : first ++ second ⊆ values) :
    Among less values (mergeRuns less patience first second) (·.1.Perm (first ++ second)) := by
  have early {value : α} (member : value ∈ first) : value ∈ values :=
    within (List.mem_append_left _ member)
  have late {value : α} (member : value ∈ second) : value ∈ values :=
    within (List.mem_append_right _ member)
  unfold mergeRuns
  split
  · next next present =>
    have inside : next ∈ values := late (List.mem_of_mem_head? present)
    refine (gallop_among fun value member => (Among.compare inside (early member)).negate).bind
      fun start _ _ => ?_
    split
    · next last present =>
      have inside : last ∈ values := early (List.mem_of_getLast? present)
      split
      · exact .pure (.refl _)
      · refine (gallop_among fun value member => (Among.compare
          (late (List.mem_reverse.mp member)) inside).negate).bind fun count _ _ => ?_
        have part (stop : Nat) : first.drop start ++ second.take stop ⊆ values :=
          List.append_subset.mpr ⟨fun _ member => early (List.mem_of_mem_drop member),
            fun _ member => late (List.mem_of_mem_take member)⟩
        refine (mergeShorter_among _ (part _)).bind fun merged _ same => .pure ?_
        refine ((same.append_left _).append_right _).trans (.of_eq ?_)
        rw [← List.append_assoc (first.take _), List.take_append_drop, List.append_assoc,
          List.take_append_drop]
    · next absent =>
      rw [eq_nil_of_getLast? absent, List.nil_append]
      exact .pure (.refl _)
  · next absent =>
    rw [eq_nil_of_head? absent, List.append_nil]
    exact .pure (.refl _)

/-- Merging begins with a comparison between the two runs. -/
theorem mergeRuns_compares {patience : Nat} {merged : List α × Nat}
    (done : mergeRuns less patience (a :: first) (b :: second) = .ok merged) :
    ∃ before, less b a = .ok before := by
  obtain ⟨_, found, _⟩ := bind_ok_iff.mp done
  obtain ⟨_, tested⟩ := gallop_tests found
  obtain ⟨before, compared, _⟩ := bind_ok_iff.mp tested
  exact ⟨before, compared⟩

theorem mergeRuns_among (respects : Respects less kind) (patience : Nat)
    (within : first ++ second ⊆ values) (front : Alike kind first) (behind : Alike kind second) :
    Among less values (mergeRuns less patience first second) fun merged =>
      merged.1.Perm (first ++ second) ∧ Alike kind merged.1 := by
  refine (mergeRuns_perm patience within).mono fun merged done same => ⟨same, ?_⟩
  match first, second with
  | [], _ => exact (front.nonempty rfl).elim
  | _, [] => exact (behind.nonempty rfl).elim
  | a :: first, b :: second =>
    obtain ⟨_, compared⟩ := mergeRuns_compares done
    have link : kind a = kind b := (respects _ _ _ compared).symm
    exact (front.append behind List.mem_cons_self List.mem_cons_self link).of_perm same

/-! ## Merging all runs -/

variable {runs front : List (Run α)} {before later : Run α}

/-- Runs that wait to be merged, together made of these values. -/
structure Stacked (kind : α → κ) (all : List α) (runs : List (Run α)) : Prop where
  perm : (runs.flatMap Run.values).Perm all
  alike : ∀ run ∈ runs, Alike kind run.values

theorem Stacked.subset {run : Run α} (stacked : Stacked kind all runs) (member : run ∈ runs) :
    run.values ⊆ all :=
  fun _ inside => stacked.perm.subset (List.mem_flatMap.mpr ⟨run, member, inside⟩)

/-- Two neighbours are merged into one run, wherever they stand. -/
theorem Stacked.merge (respects : Respects less kind) (patience : Nat) (within : all ⊆ values)
    (front : List (Run α)) (stacked : Stacked kind all (front ++ later :: before :: runs)) :
    Among less values (mergeRuns less patience before.values later.values) fun merged =>
      Stacked kind all (front ++ { before with values := merged.1 } :: runs) := by
  have left : before ∈ front ++ later :: before :: runs := by simp
  have right : later ∈ front ++ later :: before :: runs := by simp
  have inside : before.values ++ later.values ⊆ values :=
    List.Subset.trans (List.append_subset.mpr ⟨stacked.subset left, stacked.subset right⟩) within
  refine (mergeRuns_among respects patience inside (stacked.alike _ left)
    (stacked.alike _ right)).mono fun merged _ held => ⟨?_, fun run member => ?_⟩
  · refine .trans ?_ stacked.perm
    simp only [List.flatMap_append, List.flatMap_cons]
    rw [← List.append_assoc later.values]
    exact ((held.1.trans List.perm_append_comm).append_right _).append_left _
  · rcases List.mem_append.mp member with earlier | rest
    · exact stacked.alike run (List.mem_append_left _ earlier)
    · rcases List.mem_cons.mp rest with rfl | rest
      · exact held.2
      · exact stacked.alike run (by simp [rest])

theorem settle_among (respects : Respects less kind) (power patience : Nat) (within : all ⊆ values)
    (stacked : Stacked kind all runs) :
    Among less values (settle less power patience runs) (Stacked kind all ·.1) := by
  fun_induction settle less power patience runs with
  | case1 patience last before rest meets ih =>
    exact (stacked.merge respects patience within []).bind fun _ _ held => ih _ _ held
  | case2 | case3 => exact .pure stacked

/-- A single run that is left holds all values. -/
theorem Stacked.single {run : Run α} (stacked : Stacked kind all [run]) :
    run.values.Perm all ∧ (all ≠ [] → Alike kind run.values) := by
  have same := stacked.perm
  rw [List.flatMap_singleton] at same
  exact ⟨same, fun _ => stacked.alike run List.mem_cons_self⟩

theorem collapse_among (respects : Respects less kind) (patience : Nat) (within : all ⊆ values)
    (stacked : Stacked kind all runs) :
    Among less values (collapse less patience runs) fun result =>
      result.Perm all ∧ (all ≠ [] → Alike kind result) := by
  fun_induction collapse less patience runs with
  | case1 patience last before first rest shorter ih =>
    exact (stacked.merge respects patience within [last]).bind fun _ _ held => ih _ _ held
  | case2 patience last before first rest longer ih =>
    exact (stacked.merge respects patience within []).bind fun _ _ held => ih _ _ held
  | case3 patience last before =>
    exact (stacked.merge respects patience within []).bind fun _ _ held => .pure held.single
  | case4 patience run => exact .pure stacked.single
  | case5 =>
    have none := stacked.perm.symm.eq_nil
    exact .pure ⟨.of_eq none.symm, fun some => (some none).elim⟩

theorem addRun_among (respects : Respects less kind) (total patience : Nat)
    (within : all ⊆ values) (stacked : Stacked kind all runs) (alike : Alike kind run) :
    Among less values (addRun less total patience runs run) (Stacked kind (all ++ run) ·.1) := by
  have added {runs : List (Run α)} (stacked : Stacked kind all runs) (start power : Nat) :
      Stacked kind (all ++ run) (⟨run, start, power⟩ :: runs) := by
    refine ⟨?_, List.forall_mem_cons.mpr ⟨alike, stacked.alike⟩⟩
    exact List.perm_append_comm.trans (stacked.perm.append_right _)
  unfold addRun
  split
  · next last present =>
    exact (settle_among respects _ _ within stacked).bind fun _ _ held => .pure (added held _ _)
  · next absent =>
    obtain rfl := eq_nil_of_head? absent
    exact .pure (added stacked 0 0)

/-- Every step finds a run, so that there need be no more steps than values. -/
theorem addRuns_among (respects : Respects less kind) (total steps patience : Nat)
    (enough : rest.length ≤ steps) (within : all ++ rest ⊆ values)
    (stacked : Stacked kind all runs) :
    Among less values (addRuns less total steps patience runs rest)
      (Stacked kind (all ++ rest) ·.1) := by
  induction steps generalizing patience all runs rest with
  | zero =>
    rw [List.length_eq_zero_iff.mp (Nat.le_zero.mp enough), List.append_nil]
    exact .pure stacked
  | succ steps ih =>
    match rest with
    | [] =>
      rw [List.append_nil]
      exact .pure stacked
    | value :: rest =>
      have behind : value :: rest ⊆ values := List.Subset.trans (List.subset_append_right ..) within
      rw [addRuns]
      refine (nextRun_among respects _ behind (List.cons_ne_nil _ _)).bind
        fun ⟨run, others⟩ _ cut => ?_
      have done : all ⊆ values := List.Subset.trans (List.subset_append_left ..) within
      refine (addRun_among respects total patience done stacked cut.alike).bind
        fun later _ held => ?_
      have moved : (all ++ run ++ others).Perm (all ++ value :: rest) := by
        rw [List.append_assoc]
        exact cut.perm.append_left all
      have fewer : others.length ≤ steps := by
        have lengths := cut.perm.length_eq
        have nonempty : 0 < run.length := List.length_pos_iff.mpr cut.alike.nonempty
        simp only [List.length_append, List.length_cons] at lengths enough
        omega
      refine (ih _ fewer (within_of_perm moved within) held).mono fun _ _ stacked => ?_
      exact ⟨stacked.perm.trans moved, stacked.alike⟩

end Runs

/-! ## Sorting -/

/-- Sorting gives back the values, all of one kind, and does not fail if every two of them can be
compared. -/
theorem sort_among (respects : Respects less kind) (values : List α) :
    Among less values (sort less values) fun result =>
      result.Perm values ∧ (values ≠ [] → Alike kind result) := by
  have start : Stacked kind [] ([] : List (Run α)) := ⟨.refl _, nofun⟩
  refine (addRuns_among respects _ _ leastGallop (Nat.le_refl _) (List.Subset.refl _) start).bind
    fun runs _ stacked => ?_
  exact collapse_among respects _ (List.Subset.refl _) stacked

/-- Where there is nothing to compare, nothing can fail. -/
theorem sort_of_short (few : values.length ≤ 1) : sort less values = .ok values := by
  match values with
  | [] => simp [sort, addRuns, collapse]
  | [value] => simp [sort, addRuns, nextRun, addRun, collapse, pure, Except.pure]

/-- Sorting begins with a comparison of the first two values. -/
theorem sort_compares {result : List α} (done : sort less (a :: b :: rest) = .ok result) :
    ∃ before, less b a = .ok before := by
  obtain ⟨_, found, _⟩ := bind_ok_iff.mp done
  obtain ⟨_, cut, _⟩ := bind_ok_iff.mp found
  obtain ⟨before, compared, _⟩ := bind_ok_iff.mp cut
  exact ⟨before, compared⟩

end Sorting

end TokenLexer
