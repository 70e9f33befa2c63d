import TokenLexer.Proofs.Sorting.Merging
import TokenLexer.Proofs.Sorting.Order

/-!
# Sorting puts values into order

If the comparisons of the values agree with an order in which some values may be level, then
sorting succeeds, and no value stands behind one that it comes before. A merge keeps what it has
taken in front of all that it has left, from either side; it always goes on, and so it does not
stop before it is over.

Main statement: `sort_ordered`.
-/

namespace TokenLexer

namespace Sorting

variable {α ε : Type} {less : α → α → Except ε Bool} {values run rest list result : List α}
  {a : α}

/-! ## Merging two runs -/

/-- A merge that is in order: what has been taken is in order with each of the two runs, and the
last value that was kept comes last. -/
structure Merging.InOrder (less : α → α → Except ε Bool) (merging : Merging α) : Prop where
  kept : Sorting.InOrder less (merging.done.reverse ++ merging.kept)
  other : Sorting.InOrder less (merging.done.reverse ++ merging.other)
  last : ∀ last, merging.kept.getLast? = some last → ∀ value ∈ merging.other,
    less last value = .ok false

variable {merging later : Merging α}

theorem Merging.InOrder.of_kept (inOrder : merging.InOrder less) :
    Sorting.InOrder less merging.kept :=
  (List.pairwise_append.mp inOrder.kept).2.1

theorem Merging.InOrder.of_other (inOrder : merging.InOrder less) :
    Sorting.InOrder less merging.other :=
  (List.pairwise_append.mp inOrder.other).2.1

theorem Merging.InOrder.of_isOver (inOrder : merging.InOrder less)
    (ended : merging.isOver = true) : Sorting.InOrder less merging.values := by
  obtain ⟨done, kept, other⟩ := merging
  obtain ⟨front, behind, last⟩ := inOrder
  match kept with
  | [] =>
    rw [Merging.values, List.append_nil]
    exact behind
  | [kept] =>
    refine List.pairwise_append.mpr ⟨behind, List.pairwise_singleton _ _, fun a early => ?_⟩
    refine List.forall_mem_singleton.mpr ?_
    rcases List.mem_append.mp early with taken | left
    · exact (List.pairwise_append.mp front).2.2 a taken kept List.mem_cons_self
    · exact last kept rfl a left
  | first :: second :: rest =>
    have none : other = [] := by simpa [isOver] using ended
    rw [Merging.values, none, List.append_nil]
    exact front

/-- Some of one run can be taken if they come before those of the other. -/
theorem InOrder.take {taken others : List α} (one : InOrder less (taken ++ run))
    (other : InOrder less (taken ++ others)) {count : Nat}
    (first : ∀ a ∈ run.take count, ∀ b ∈ others, less b a = .ok false) :
    InOrder less (taken ++ run.take count ++ others) := by
  obtain ⟨front, behind, across⟩ := List.pairwise_append.mp other
  refine List.pairwise_append.mpr ⟨?_, behind, fun a early b late => ?_⟩
  · exact one.sublist ((List.take_sublist ..).append_left taken)
  · rcases List.mem_append.mp early with taken | next
    · exact across a taken b late
    · exact first a next b late

theorem Merging.InOrder.takeKept (inOrder : merging.InOrder less) {count : Nat}
    (first : ∀ a ∈ merging.kept.take count, ∀ b ∈ merging.other, less b a = .ok false) :
    (merging.takeKept count).InOrder less := by
  have taken : (merging.takeKept count).done.reverse =
      merging.done.reverse ++ merging.kept.take count := by
    simp [Merging.takeKept]
  refine ⟨?_, taken ▸ inOrder.kept.take inOrder.other first, fun last final => ?_⟩
  · rw [taken, List.append_assoc]
    exact (List.take_append_drop count merging.kept).symm ▸ inOrder.kept
  · refine inOrder.last last ?_
    simp only [Merging.takeKept, List.getLast?_drop] at final
    split at final
    · cases final
    · exact final

theorem Merging.InOrder.takeOther (inOrder : merging.InOrder less) {count : Nat}
    (first : ∀ a ∈ merging.other.take count, ∀ b ∈ merging.kept, less b a = .ok false) :
    (merging.takeOther count).InOrder less := by
  have taken : (merging.takeOther count).done.reverse =
      merging.done.reverse ++ merging.other.take count := by
    simp [Merging.takeOther]
  refine ⟨taken ▸ inOrder.other.take inOrder.kept first, ?_, fun last final value member => ?_⟩
  · rw [taken, List.append_assoc]
    exact (List.take_append_drop count merging.other).symm ▸ inOrder.other
  · exact inOrder.last last final value (List.mem_of_mem_drop member)

theorem head?_of_mem_take (member : a ∈ list.take 1) : list.head? = some a := by
  cases list with
  | nil => cases member
  | cons first rest => rw [List.mem_singleton.mp member, List.head?_cons]

variable {side : End} {patience steps keptWins otherWins count : Nat} {kept other : α}

/-- The next one of the others is taken because it comes first. -/
theorem Merging.InOrder.takeNext (inOrder : merging.InOrder less) (ordered : Ordered less values)
    (within : merging.values ⊆ values) (first : merging.kept.head? = some kept)
    (next : merging.other.head? = some other) (before : less other kept = .ok true) :
    (merging.takeOther 1).InOrder less := by
  have right : merging.kept ⊆ values := List.Subset.trans merging.kept_subset within
  have left : other ∈ values := within (merging.other_subset (List.mem_of_mem_head? next))
  refine inOrder.takeOther fun a taken => ?_
  obtain rfl := Option.some.inj ((head?_of_mem_take taken).symm.trans next)
  have behind := ordered.asymm a left kept (right (List.mem_of_mem_head? first)) before
  exact inOrder.of_kept.all_behind ordered right left first behind

/-- The next one that was kept is taken because none of the others comes before it. -/
theorem Merging.InOrder.takeFirst (inOrder : merging.InOrder less) (ordered : Ordered less values)
    (within : merging.values ⊆ values) (first : merging.kept.head? = some kept)
    (next : merging.other.head? = some other) (behind : less other kept = .ok false) :
    (merging.takeKept 1).InOrder less := by
  have left : merging.other ⊆ values := List.Subset.trans merging.other_subset within
  have right : kept ∈ values := within (merging.kept_subset (List.mem_of_mem_head? first))
  refine inOrder.takeKept fun a taken => ?_
  obtain rfl := Option.some.inj ((head?_of_mem_take taken).symm.trans first)
  exact inOrder.of_other.all_behind ordered left right next behind

theorem oneByOne_inOrder (ordered : Ordered (ahead less side) values)
    (within : merging.values ⊆ values) (inOrder : merging.InOrder (ahead less side))
    (done : oneByOne less side patience steps keptWins otherWins merging = .ok later) :
    later.InOrder (ahead less side) := by
  induction steps generalizing keptWins otherWins merging with
  | zero =>
    cases done
    exact inOrder
  | succ steps ih =>
    rw [oneByOne] at done
    split at done
    · next kept first =>
      split at done
      · next other next =>
        obtain ⟨before, compared, done⟩ := bind_ok_iff.mp done
        cases before with
        | true =>
          have taken := inOrder.takeNext ordered within first next compared
          have inside := within_of_perm (merging.takeOther_advances 1).perm within
          rw [if_pos rfl] at done
          dsimp only at done
          split at done
          · cases done
            exact taken
          · exact ih inside taken done
        | false =>
          have taken := inOrder.takeFirst ordered within first next compared
          have inside := within_of_perm (merging.takeKept_advances 1).perm within
          rw [if_neg Bool.false_ne_true] at done
          dsimp only at done
          split at done
          · cases done
            exact taken
          · exact ih inside taken done
      · cases done
        exact inOrder
    · cases done
      exact inOrder

theorem keptHalf_inOrder {half : Nat × Merging α} (ordered : Ordered (ahead less side) values)
    (within : merging.values ⊆ values) (inOrder : merging.InOrder (ahead less side))
    (done : keptHalf less side merging = .ok half) : half.2.InOrder (ahead less side) := by
  have right : merging.kept ⊆ values := List.Subset.trans merging.kept_subset within
  have others : merging.other ⊆ values := List.Subset.trans merging.other_subset within
  unfold keptHalf at done
  split at done
  · next other next =>
    have left : other ∈ values := others (List.mem_of_mem_head? next)
    obtain ⟨passing, failing, run, divides⟩ := inOrder.of_kept.divides_behind ordered right left
    obtain ⟨count, found, done⟩ := bind_ok_iff.mp done
    rw [run, gallop_finds divides] at found
    cases done
    obtain rfl := Except.ok.inj found
    have taken : (merging.takeKept passing.length).InOrder (ahead less side) := by
      refine inOrder.takeKept fun a member => ?_
      rw [run, List.take_left] at member
      have inside : a ∈ values := right (run ▸ List.mem_append_left _ member)
      have behind := negate_ok_iff.mp (divides.front a member)
      exact inOrder.of_other.all_behind ordered others inside next behind
    dsimp only
    split
    · exact taken
    · refine taken.takeOther fun a member b later => ?_
      obtain rfl := Option.some.inj ((head?_of_mem_take member).symm.trans next)
      rw [Merging.takeKept, run, List.drop_left] at later
      have before := negate_ok_iff.mp (divides.behind b later)
      exact ordered.asymm a left b (right (run ▸ List.mem_append_right _ later)) before
  · cases done
    exact inOrder

theorem otherHalf_inOrder {half : Nat × Merging α} (ordered : Ordered (ahead less side) values)
    (within : merging.values ⊆ values) (inOrder : merging.InOrder (ahead less side))
    (done : otherHalf less side merging = .ok half) : half.2.InOrder (ahead less side) := by
  have left : merging.other ⊆ values := List.Subset.trans merging.other_subset within
  have rest : merging.kept ⊆ values := List.Subset.trans merging.kept_subset within
  unfold otherHalf at done
  split at done
  · next kept first =>
    have right : kept ∈ values := rest (List.mem_of_mem_head? first)
    obtain ⟨passing, failing, run, divides⟩ := inOrder.of_other.divides_ahead ordered left right
    obtain ⟨count, found, done⟩ := bind_ok_iff.mp done
    rw [run, gallop_finds divides] at found
    cases done
    obtain rfl := Except.ok.inj found
    have taken : (merging.takeOther passing.length).InOrder (ahead less side) := by
      refine inOrder.takeOther fun a member => ?_
      rw [run, List.take_left] at member
      have inside : a ∈ values := left (run ▸ List.mem_append_left _ member)
      have behind := ordered.asymm a inside kept right (divides.front a member)
      exact inOrder.of_kept.all_behind ordered rest inside first behind
    dsimp only
    split
    · exact taken
    · refine taken.takeKept fun a member b later => ?_
      obtain rfl := Option.some.inj ((head?_of_mem_take member).symm.trans first)
      rw [Merging.takeOther, run, List.drop_left] at later
      exact divides.behind b later
  · cases done
    exact inOrder

theorem firstHalf_inOrder {half : Nat × Merging α} (ordered : Ordered (ahead less side) values)
    (within : merging.values ⊆ values) (inOrder : merging.InOrder (ahead less side))
    (done : firstHalf less side merging = .ok half) : half.2.InOrder (ahead less side) := by
  cases side with
  | front => exact keptHalf_inOrder ordered within inOrder done
  | back => exact otherHalf_inOrder ordered within inOrder done

theorem secondHalf_inOrder {half : Nat × Merging α} (ordered : Ordered (ahead less side) values)
    (within : merging.values ⊆ values) (inOrder : merging.InOrder (ahead less side))
    (done : secondHalf less side merging = .ok half) : half.2.InOrder (ahead less side) := by
  cases side with
  | front => exact otherHalf_inOrder ordered within inOrder done
  | back => exact keptHalf_inOrder ordered within inOrder done

variable {merged : Merging α × Nat}

theorem galloping_inOrder (ordered : Ordered (ahead less side) values)
    (within : merging.values ⊆ values) (inOrder : merging.InOrder (ahead less side))
    (done : galloping less side steps patience merging = .ok merged) :
    merged.1.InOrder (ahead less side) := by
  induction steps generalizing patience merging with
  | zero =>
    cases done
    exact inOrder
  | succ steps ih =>
    obtain ⟨⟨count, middle⟩, half, done⟩ := bind_ok_iff.mp done
    have first := firstHalf_inOrder ordered within inOrder half
    have inside := within_of_perm ((firstHalf_among side within).ensures half).perm within
    dsimp only at done first inside
    split at done
    · cases done
      exact first
    · obtain ⟨⟨more, later⟩, whole, done⟩ := bind_ok_iff.mp done
      have second := secondHalf_inOrder ordered inside first whole
      have inside := within_of_perm ((secondHalf_among side inside).ensures whole).perm inside
      dsimp only at done second inside
      split at done
      · cases done
        exact second
      · split at done
        · exact ih inside second done
        · cases done
          exact second

theorem mergeOn_inOrder (ordered : Ordered (ahead less side) values)
    (within : merging.values ⊆ values) (inOrder : merging.InOrder (ahead less side))
    (done : mergeOn less side steps patience merging = .ok merged) :
    merged.1.InOrder (ahead less side) := by
  induction steps generalizing patience merging with
  | zero =>
    cases done
    exact inOrder
  | succ steps ih =>
    rw [mergeOn] at done
    split at done
    · cases done
      exact inOrder
    · obtain ⟨middle, slow, done⟩ := bind_ok_iff.mp done
      have half := oneByOne_inOrder ordered within inOrder slow
      have inside := within_of_perm ((oneByOne_among side _ _ _ _ within).ensures slow).perm within
      dsimp only at done
      split at done
      · cases done
        exact half
      · obtain ⟨⟨later, shorter⟩, fast, done⟩ := bind_ok_iff.mp done
        have whole := galloping_inOrder ordered inside half fast
        have inside := within_of_perm ((galloping_among side _ _ inside).ensures fast).perm inside
        exact ih inside whole done

theorem Merging.takeKept_left (first : merging.kept.head? = some kept) :
    (merging.takeKept 1).left < merging.left := by
  have some : 0 < merging.kept.length := List.length_pos_of_mem (List.mem_of_mem_head? first)
  simp only [left, takeKept, List.length_drop]
  omega

theorem Merging.takeOther_left (next : merging.other.head? = some other) :
    (merging.takeOther 1).left < merging.left := by
  have some : 0 < merging.other.length := List.length_pos_of_mem (List.mem_of_mem_head? next)
  simp only [left, takeOther, List.length_drop]
  omega

/-- A merge that is not over goes on. -/
theorem oneByOne_left (less : α → α → Except ε Bool) (side : End)
    (unfinished : ¬merging.isOver = true)
    (done : oneByOne less side patience (steps + 1) keptWins otherWins merging = .ok later) :
    later.left < merging.left := by
  have goOn {taken later : Merging α} {wins losses : Nat}
      (done : oneByOne less side patience steps wins losses taken = .ok later) :
      later.left ≤ taken.left :=
    ((oneByOne_among side _ _ _ _ (List.Subset.refl _)).ensures done).left
  rw [oneByOne] at done
  split at done
  · next kept first =>
    split at done
    · next other next =>
      obtain ⟨before, _, done⟩ := bind_ok_iff.mp done
      cases before with
      | true =>
        have fewer := Merging.takeOther_left next
        rw [if_pos rfl] at done
        dsimp only at done
        split at done
        · cases done
          exact fewer
        · exact Nat.lt_of_le_of_lt (goOn done) fewer
      | false =>
        have fewer := Merging.takeKept_left first
        rw [if_neg Bool.false_ne_true] at done
        dsimp only at done
        split at done
        · cases done
          exact fewer
        · exact Nat.lt_of_le_of_lt (goOn done) fewer
    · next absent =>
      exact (unfinished (by simp [Merging.isOver, eq_nil_of_head? absent])).elim
  · next absent =>
    exact (unfinished (by simp [Merging.isOver, eq_nil_of_head? absent])).elim

/-- A merge is over when all its steps have been made. -/
theorem mergeOn_isOver (enough : merging.left ≤ steps)
    (done : mergeOn less side steps patience merging = .ok merged) : merged.1.isOver = true := by
  induction steps generalizing patience merging with
  | zero =>
    cases done
    have none : merging.kept.length = 0 := by
      simp only [Merging.left] at enough
      omega
    simp [Merging.isOver, none]
  | succ steps ih =>
    rw [mergeOn] at done
    split at done
    · next ended =>
      cases done
      exact ended
    · next unfinished =>
      obtain ⟨middle, slow, done⟩ := bind_ok_iff.mp done
      have fewer : middle.left < merging.left := by
        cases all : merging.values.length with
        | zero =>
          have none : merging.kept = [] :=
            (List.append_eq_nil_iff.mp (List.length_eq_zero_iff.mp all)).2
          exact (unfinished (by simp [Merging.isOver, none])).elim
        | succ more =>
          rw [all] at slow
          exact oneByOne_left less side unfinished slow
      dsimp only at done
      split at done
      · next ended =>
        cases done
        exact ended
      · obtain ⟨⟨later, shorter⟩, fast, done⟩ := bind_ok_iff.mp done
        have most : later.left ≤ middle.left :=
          ((galloping_among side _ _ (List.Subset.refl _)).ensures fast).left
        have enough : later.left ≤ steps :=
          Nat.le_of_lt_succ (Nat.lt_of_le_of_lt most (Nat.lt_of_lt_of_le fewer enough))
        exact ih enough done

variable {front behind first second : List α} {output : List α × Nat}

theorem mergeFrom_inOrder (side : End) (ordered : Ordered (ahead less side) values)
    (within : behind ++ front ⊆ values) (kept : InOrder (ahead less side) front)
    (others : InOrder (ahead less side) behind)
    (next : ∀ a, behind.head? = some a → ∀ b ∈ front, ahead less side b a = .ok false)
    (last : ∀ a, front.getLast? = some a → ∀ b ∈ behind, ahead less side a b = .ok false)
    (done : mergeFrom less side patience front behind = .ok output) :
    InOrder (ahead less side) output.1 := by
  obtain ⟨⟨merged, patience⟩, made, done⟩ := bind_ok_iff.mp done
  cases done
  have unmerged : (Merging.mk [] front behind).InOrder (ahead less side) := ⟨kept, others, last⟩
  have start := @Merging.InOrder.takeOther _ _ _ _ unmerged 1 fun a member =>
    next a (head?_of_mem_take member)
  have inside : ((Merging.mk [] front behind).takeOther 1).values ⊆ values := by
    rw [Merging.takeOther_values]
    exact within
  refine (mergeOn_inOrder ordered inside start made).of_isOver ?_
  refine mergeOn_isOver ?_ made
  simp only [Merging.left, Merging.values, List.length_append]
  omega

theorem mergeShorter_inOrder (ordered : Ordered less values) (within : front ++ behind ⊆ values)
    (one : InOrder less front) (other : InOrder less behind)
    (next : ∀ a, behind.head? = some a → ∀ b ∈ front, less a b = .ok true)
    (last : ∀ a, front.getLast? = some a → ∀ b ∈ behind, less b a = .ok true)
    (done : mergeShorter less patience front behind = .ok output) : InOrder less output.1 := by
  obtain ⟨left, right⟩ := List.append_subset.mp within
  have next_behind (a : α) (first : behind.head? = some a) (b : α) (member : b ∈ front) :
      less b a = .ok false :=
    ordered.asymm a (right (List.mem_of_mem_head? first)) b (left member) (next a first b member)
  have last_behind (a : α) (final : front.getLast? = some a) (b : α) (member : b ∈ behind) :
      less a b = .ok false :=
    ordered.asymm b (right member) a (left (List.mem_of_getLast? final)) (last a final b member)
  unfold mergeShorter at done
  split at done
  · exact mergeFrom_inOrder .front ordered (List.append_subset.mpr ⟨right, left⟩) one other
      next_behind last_behind done
  · obtain ⟨⟨merged, patience⟩, made, done⟩ := bind_ok_iff.mp done
    cases done
    have turned : InOrder (ahead less .back) merged := by
      refine mergeFrom_inOrder .back (ordered.ahead .back) ?_ (inOrder_reverse.mpr other)
        (inOrder_reverse.mpr one) ?_ ?_ made
      · simpa using List.append_subset.mpr ⟨left, right⟩
      · intro a final b member
        rw [List.head?_reverse] at final
        exact last_behind a final b (List.mem_reverse.mp member)
      · intro a first b member
        rw [List.getLast?_reverse] at first
        exact next_behind a first b (List.mem_reverse.mp member)
    rwa [← inOrder_reverse, List.reverse_reverse]

/-- A merge of the middle is in order with what stands around it. -/
theorem InOrder.around {early late middle rest merged : List α}
    (front : InOrder less (early ++ late)) (behind : InOrder less (middle ++ rest))
    (before : ∀ a ∈ early, ∀ b ∈ middle ++ rest, less b a = .ok false)
    (after : ∀ a ∈ late, ∀ b ∈ rest, less b a = .ok false)
    (inOrder : InOrder less merged) (same : merged.Perm (late ++ middle)) :
    InOrder less (early ++ merged ++ rest) := by
  obtain ⟨early_inOrder, _, across⟩ := List.pairwise_append.mp front
  obtain ⟨_, rest_inOrder, beyond⟩ := List.pairwise_append.mp behind
  refine List.pairwise_append.mpr ⟨List.pairwise_append.mpr ⟨early_inOrder, inOrder, ?_⟩,
    rest_inOrder, ?_⟩
  · intro a first b member
    rcases List.mem_append.mp (same.mem_iff.mp member) with late | middle
    · exact across a first b late
    · exact before a first b (List.mem_append_left _ middle)
  · intro a member b last
    rcases List.mem_append.mp member with early | member
    · exact before a early b (List.mem_append_right _ last)
    · rcases List.mem_append.mp (same.mem_iff.mp member) with late | middle
      · exact after a late b last
      · exact beyond a middle b last

theorem mergeRuns_inOrder (ordered : Ordered less values) (within : first ++ second ⊆ values)
    (front : InOrder less first) (behind : InOrder less second)
    (done : mergeRuns less patience first second = .ok output) : InOrder less output.1 := by
  obtain ⟨left, right⟩ := List.append_subset.mp within
  unfold mergeRuns at done
  split at done
  · next next present =>
    have member : next ∈ values := right (List.mem_of_mem_head? present)
    obtain ⟨early, late, rfl, divides⟩ := front.divides_behind ordered left member
    obtain ⟨start, found, done⟩ := bind_ok_iff.mp done
    rw [gallop_finds divides] at found
    obtain rfl := Except.ok.inj found
    obtain ⟨early_inOrder, late_inOrder, across⟩ := List.pairwise_append.mp front
    -- What is in place in the first run comes before all of the second.
    have before_second : ∀ a ∈ early, ∀ b ∈ second, less b a = .ok false := fun a member =>
      behind.all_behind ordered right (left (List.mem_append_left _ member)) present
        (negate_ok_iff.mp (divides.front a member))
    split at done
    · next last final =>
      split at done
      · next all =>
        cases done
        have none : late = [] := by
          rw [List.length_append] at all
          exact List.length_eq_zero_iff.mp (by omega)
        subst none
        rw [List.append_nil]
        exact List.pairwise_append.mpr ⟨early_inOrder, behind, before_second⟩
      · have inside : last ∈ values := left (List.mem_of_getLast? final)
        have turned : second.reverse ⊆ values := fun a member => right (List.mem_reverse.mp member)
        obtain ⟨passing, failing, reversed, tested⟩ :=
          (inOrder_reverse.mpr behind).divides_behind (ordered.ahead .back) turned inside
        have whole : second = failing.reverse ++ passing.reverse := by
          rw [← List.reverse_append, ← reversed, List.reverse_reverse]
        obtain ⟨count, found, done⟩ := bind_ok_iff.mp done
        rw [reversed] at found
        obtain rfl := Except.ok.inj (found.symm.trans (gallop_finds tested))
        obtain ⟨⟨merged, _⟩, made, done⟩ := bind_ok_iff.mp done
        cases done
        have stop : second.length - passing.length = failing.reverse.length := by
          simp [whole]
        rw [stop, List.drop_left, whole, List.take_left] at made
        rw [stop, List.take_left, whole, List.drop_left]
        rw [whole] at behind before_second present right
        have late_within : late ++ failing.reverse ⊆ values := List.append_subset.mpr
          ⟨(List.append_subset.mp left).2, (List.append_subset.mp right).1⟩
        have first_turned : (early ++ late).reverse ⊆ values :=
          fun a member => left (List.mem_reverse.mp member)
        have inOrder : InOrder less merged := by
          refine mergeShorter_inOrder ordered late_within late_inOrder
            (List.pairwise_append.mp behind).1 ?_ ?_ made
          · intro a first b left_over
            rw [List.head?_append, first] at present
            obtain rfl := Option.some.inj present
            exact negate_ok_iff.mp (divides.behind b left_over)
          · intro a first b left_over
            rw [List.getLast?_append, first] at final
            obtain rfl := Option.some.inj final
            exact negate_ok_iff.mp (tested.behind b (List.mem_reverse.mp left_over))
        have same := (mergeShorter_among _ late_within).ensures made
        refine front.around behind before_second (fun a early b passed => ?_) inOrder same
        exact (inOrder_reverse.mpr front).all_behind (ordered.ahead .back) first_turned
          (right (List.mem_append_right _ passed)) (List.head?_reverse.trans final)
          (negate_ok_iff.mp (tested.front b (List.mem_reverse.mp passed))) a
          (List.mem_reverse.mpr (List.mem_append_right _ early))
    · cases done
      exact behind
  · cases done
    exact front

/-! ## Merging all runs -/

variable {all : List α} {runs : List (Run α)} {later before : Run α} {power : Nat}

/-- Runs that wait to be merged, each of them in order. -/
structure Waiting (less : α → α → Except ε Bool) (all : List α) (runs : List (Run α)) : Prop where
  stacked : Stacked (fun _ => ()) all runs
  inOrder : ∀ run ∈ runs, InOrder less run.values

theorem Waiting.merge (ordered : Ordered less values) (within : all ⊆ values)
    (front : List (Run α)) (waiting : Waiting less all (front ++ later :: before :: runs))
    (done : mergeRuns less patience before.values later.values = .ok output) :
    Waiting less all (front ++ { before with values := output.1 } :: runs) := by
  obtain ⟨stacked, inOrder⟩ := waiting
  have left : before ∈ front ++ later :: before :: runs := by simp
  have right : later ∈ front ++ later :: before :: runs := by simp
  refine ⟨(stacked.merge respects_unit patience within front).ensures done, fun run member => ?_⟩
  rcases List.mem_append.mp member with earlier | rest
  · exact inOrder run (List.mem_append_left _ earlier)
  · rcases List.mem_cons.mp rest with rfl | rest
    · refine mergeRuns_inOrder ordered ?_ (inOrder _ left) (inOrder _ right) done
      exact List.Subset.trans
        (List.append_subset.mpr ⟨stacked.subset left, stacked.subset right⟩) within
    · exact inOrder run (by simp [rest])

theorem settle_waiting {settled : List (Run α) × Nat} (ordered : Ordered less values)
    (within : all ⊆ values) (waiting : Waiting less all runs)
    (done : settle less power patience runs = .ok settled) : Waiting less all settled.1 := by
  fun_induction settle less power patience runs with
  | case1 patience last before rest meets ih =>
    obtain ⟨merged, made, done⟩ := bind_ok_iff.mp done
    exact ih _ _ (waiting.merge ordered within [] made) done
  | case2 | case3 =>
    cases done
    exact waiting

theorem collapse_inOrder (ordered : Ordered less values) (within : all ⊆ values)
    (waiting : Waiting less all runs) (done : collapse less patience runs = .ok result) :
    InOrder less result := by
  fun_induction collapse less patience runs with
  | case1 patience last before first rest shorter ih =>
    obtain ⟨merged, made, done⟩ := bind_ok_iff.mp done
    exact ih _ _ (waiting.merge ordered within [last] made) done
  | case2 patience last before first rest longer ih =>
    obtain ⟨merged, made, done⟩ := bind_ok_iff.mp done
    exact ih _ _ (waiting.merge ordered within [] made) done
  | case3 patience last before =>
    obtain ⟨merged, made, done⟩ := bind_ok_iff.mp done
    cases done
    exact (waiting.merge ordered within [] made).inOrder _ List.mem_cons_self
  | case4 patience run =>
    cases done
    exact waiting.inOrder run List.mem_cons_self
  | case5 =>
    cases done
    exact .nil

theorem addRun_waiting {total : Nat} {added : List (Run α) × Nat} (ordered : Ordered less values)
    (within : all ⊆ values) (waiting : Waiting less all runs) (nonempty : run ≠ [])
    (inOrder : InOrder less run) (done : addRun less total patience runs run = .ok added) :
    Waiting less (all ++ run) added.1 := by
  refine ⟨(addRun_among respects_unit total patience within waiting.stacked
    (alike_unit nonempty)).ensures done, ?_⟩
  unfold addRun at done
  split at done
  · obtain ⟨⟨settled, _⟩, found, done⟩ := bind_ok_iff.mp done
    cases done
    exact List.forall_mem_cons.mpr ⟨inOrder, (settle_waiting ordered within waiting found).inOrder⟩
  · cases done
    exact List.forall_mem_singleton.mpr inOrder

theorem addRuns_inOrder {total : Nat} {added : List (Run α) × Nat} (ordered : Ordered less values)
    (within : all ++ rest ⊆ values) (waiting : Waiting less all runs)
    (done : addRuns less total steps patience runs rest = .ok added) :
    ∀ run ∈ added.1, InOrder less run.values := by
  induction steps generalizing patience all runs rest with
  | zero =>
    cases done
    exact waiting.inOrder
  | succ steps ih =>
    match rest with
    | [] =>
      cases done
      exact waiting.inOrder
    | value :: rest =>
      obtain ⟨before, behind⟩ := List.append_subset.mp within
      obtain ⟨⟨run, others⟩, found, done⟩ := bind_ok_iff.mp done
      obtain ⟨⟨later, _⟩, grown, done⟩ := bind_ok_iff.mp done
      have cut := (nextRun_among respects_unit _ behind (List.cons_ne_nil _ _)).ensures found
      have inOrder := nextRun_inOrder ordered _ behind found
      have moved : (all ++ run ++ others).Perm (all ++ value :: rest) := by
        rw [List.append_assoc]
        exact cut.perm.append_left all
      exact ih (within_of_perm moved within)
        (addRun_waiting ordered before waiting cut.alike.nonempty inOrder grown) done

/-! ## Sorting -/

theorem sort_inOrder (ordered : Ordered less values) (done : sort less values = .ok result) :
    InOrder less result := by
  have within : [] ++ values ⊆ values := List.Subset.refl _
  have start : Waiting less [] ([] : List (Run α)) := ⟨⟨.refl _, nofun⟩, nofun⟩
  obtain ⟨⟨runs, patience⟩, found, done⟩ := bind_ok_iff.mp done
  have stacked := (addRuns_among respects_unit values.length values.length leastGallop
    (Nat.le_refl _) within start.stacked).ensures found
  exact collapse_inOrder ordered within ⟨stacked, addRuns_inOrder ordered within start found⟩ done

/-- Sorting gives back the same values in order. -/
theorem sort_ordered (ordered : Ordered less values) :
    ∃ result, sort less values = .ok result ∧ result.Perm values ∧ InOrder less result := by
  have among := sort_among (@respects_unit _ _ less) values
  obtain ⟨result, done⟩ := among.answers ordered.answers
  exact ⟨result, done, (among.ensures done).1, sort_inOrder ordered done⟩

end Sorting

end TokenLexer
