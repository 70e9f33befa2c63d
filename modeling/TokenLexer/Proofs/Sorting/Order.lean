import TokenLexer.Proofs.Sorting.Runs

/-!
# Runs in order

What the comparisons of values have to agree with for sorting to put these into order. In a run
that is in order the values that pass a test stand in front of those that do not, and a search
ends at the place between them. So every run that is found is in order.

Main statements: `halve_finds`, `gallop_finds` and `nextRun_inOrder`.
-/

namespace TokenLexer

namespace Sorting

variable {α ε : Type} {less : α → α → Except ε Bool} {values run rest : List α} {side : End}
  {a b c value : α}

/-! ## Orders -/

/-- The comparisons of these values agree with an order in which some values may be level. -/
structure Ordered (less : α → α → Except ε Bool) (values : List α) : Prop where
  answers : ∀ a ∈ values, ∀ b ∈ values, ∃ before, less a b = .ok before
  asymm : ∀ a ∈ values, ∀ b ∈ values, less a b = .ok true → less b a = .ok false
  trans : ∀ a ∈ values, ∀ b ∈ values, ∀ c ∈ values,
    less b a = .ok false → less c b = .ok false → less c a = .ok false

/-- No value stands behind one that it comes before. -/
def InOrder (less : α → α → Except ε Bool) (run : List α) : Prop :=
  run.Pairwise fun a b => less b a = .ok false

theorem Ordered.less_of_less (ordered : Ordered less values) (first : a ∈ values)
    (second : b ∈ values) (third : c ∈ values) (before : less a b = .ok true)
    (between : less c b = .ok false) : less a c = .ok true := by
  obtain ⟨early, compared⟩ := ordered.answers a first c third
  cases early with
  | true => exact compared
  | false =>
    have late := ordered.trans b second c third a first between compared
    rw [before] at late
    cases late

/-- Seen from the back the order is turned round. -/
theorem Ordered.ahead (ordered : Ordered less values) (side : End) :
    Ordered (ahead less side) values := by
  cases side with
  | front => exact ordered
  | back =>
    exact ⟨fun a left b right => ordered.answers b right a left,
      fun a left b right => ordered.asymm b right a left,
      fun a first b second c third early late =>
        ordered.trans c third b second a first late early⟩

theorem inOrder_reverse : InOrder (ahead less .back) run.reverse ↔ InOrder less run :=
  List.pairwise_reverse

/-! ## Searching -/

/-- The values that pass a test, and those that do not. -/
structure Divides (passes : α → Except ε Bool) (passing failing : List α) : Prop where
  front : ∀ value ∈ passing, passes value = .ok true
  behind : ∀ value ∈ failing, passes value = .ok false

variable {passes : α → Except ε Bool} {passing failing list : List α}

theorem Divides.test (divides : Divides passes passing failing) {place : Nat}
    (present : (passing ++ failing)[place]? = some value) :
    passes value = .ok (decide (place < passing.length)) := by
  by_cases early : place < passing.length
  · rw [List.getElem?_append_left early] at present
    rw [decide_eq_true early]
    exact divides.front value (List.mem_of_getElem? present)
  · rw [List.getElem?_append_right (Nat.le_of_not_lt early)] at present
    rw [decide_eq_false early]
    exact divides.behind value (List.mem_of_getElem? present)

theorem halve_finds (divides : Divides passes passing failing) {steps low high : Nat}
    (above : low ≤ passing.length) (below : passing.length ≤ high)
    (within : high ≤ (passing ++ failing).length) (enough : high - low ≤ steps) :
    halve side passes (passing ++ failing) steps low high = .ok passing.length := by
  induction steps generalizing low high with
  | zero =>
    rw [halve, Nat.le_antisymm above (by omega)]
  | succ steps ih =>
    rw [halve]
    split
    · next none => rw [Nat.le_antisymm above (Nat.le_trans below none)]; rfl
    · next some =>
      obtain ⟨least, most⟩ := side.middle_between (Nat.lt_of_not_ge some)
      have present := List.getElem?_eq_getElem (Nat.lt_of_lt_of_le most within)
      dsimp only
      rw [present]
      simp only [divides.test present, ok_bind, decide_eq_true_eq]
      split
      · next early => exact ih early below within (by omega)
      · next late => exact ih above (Nat.le_of_not_lt late) (by omega) (by omega)

theorem reach_finds (divides : Divides passes passing failing) (steps last next : Nat)
    (passed : last < passing.length) :
    ∃ bounds, reach passes (passing ++ failing) steps last next = .ok bounds ∧
      bounds.1 < passing.length ∧ passing.length ≤ bounds.2 ∧
      bounds.2 ≤ (passing ++ failing).length := by
  have all : passing.length ≤ (passing ++ failing).length := by simp
  induction steps generalizing last next with
  | zero => exact ⟨_, rfl, passed, all, Nat.le_refl _⟩
  | succ steps ih =>
    rw [reach]
    split
    · next value present =>
      have inside : next < (passing ++ failing).length := (List.getElem?_eq_some_iff.mp present).1
      simp only [divides.test present, ok_bind, decide_eq_true_eq]
      split
      · next early => exact ih _ _ early
      · next late => exact ⟨_, rfl, passed, Nat.le_of_not_lt late, Nat.le_of_lt inside⟩
    · exact ⟨_, rfl, passed, all, Nat.le_refl _⟩

theorem gallop_finds (divides : Divides passes passing failing) :
    gallop side passes (passing ++ failing) = .ok passing.length := by
  match passing, failing with
  | [], [] => rfl
  | [], first :: rest =>
    simp [gallop, divides.behind first List.mem_cons_self]
    rfl
  | first :: rest, failing =>
    obtain ⟨bounds, found, least, most, within⟩ :=
      reach_finds divides (first :: rest ++ failing).length 0 1 (Nat.succ_pos _)
    simp only [gallop, List.cons_append, List.head?_cons, divides.front first List.mem_cons_self,
      ok_bind, if_true]
    rw [← List.cons_append, found]
    exact halve_finds divides least most within (by omega)

/-- If a test that one value of a run fails is failed by those behind it, the values that pass
stand in front. -/
theorem exists_divides (answers : ∀ a ∈ run, ∃ passed, passes a = .ok passed)
    (inOrder : InOrder less run)
    (closed : ∀ a ∈ run, ∀ b ∈ run, less b a = .ok false → passes a = .ok false →
      passes b = .ok false) :
    ∃ passing failing, run = passing ++ failing ∧ Divides passes passing failing := by
  induction run with
  | nil => exact ⟨[], [], rfl, List.forall_mem_nil _, List.forall_mem_nil _⟩
  | cons head tail ih =>
    obtain ⟨behind, inOrder⟩ := List.pairwise_cons.mp inOrder
    obtain ⟨passed, tested⟩ := answers head List.mem_cons_self
    cases passed with
    | true =>
      obtain ⟨passing, failing, rfl, divides⟩ := ih
        (List.forall_mem_cons.mp answers).2 inOrder
        fun a left b right => closed a (.tail _ left) b (.tail _ right)
      exact ⟨head :: passing, failing, rfl,
        List.forall_mem_cons.mpr ⟨tested, divides.front⟩, divides.behind⟩
    | false =>
      refine ⟨[], head :: tail, rfl, List.forall_mem_nil _,
        List.forall_mem_cons.mpr ⟨tested, fun b member => ?_⟩⟩
      exact closed head List.mem_cons_self b (List.mem_cons_of_mem _ member) (behind b member)
        tested

theorem negate_ok_iff {test : Except ε Bool} {before : Bool} :
    (do return !(← test)) = .ok before ↔ test = .ok !before := by
  cases test with
  | error => exact ⟨nofun, nofun⟩
  | ok tested => cases tested <;> cases before <;> simp [pure, Except.pure]

/-- The values that a value does not come before stand in front of the others. -/
theorem InOrder.divides_behind (ordered : Ordered less values) (within : run ⊆ values)
    (member : value ∈ values) (inOrder : InOrder less run) :
    ∃ passing failing, run = passing ++ failing ∧
      Divides (fun other => do return !(← less value other)) passing failing := by
  refine exists_divides (fun a inside => ?_) inOrder fun a left b right between failed => ?_
  · obtain ⟨before, compared⟩ := ordered.answers value member a (within inside)
    exact ⟨!before, negate_ok_iff.mpr (by rw [compared, Bool.not_not])⟩
  · rw [negate_ok_iff] at failed ⊢
    exact ordered.less_of_less member (within left) (within right) failed between

/-- The values that come before a value stand in front of the others. -/
theorem InOrder.divides_ahead (ordered : Ordered less values) (within : run ⊆ values)
    (member : value ∈ values) (inOrder : InOrder less run) :
    ∃ passing failing, run = passing ++ failing ∧
      Divides (fun other => less other value) passing failing :=
  exists_divides (fun a inside => ordered.answers a (within inside) value member) inOrder
    fun a left b right between failed =>
      ordered.trans value member a (within left) b (within right) failed between

/-! ## Runs -/

theorem respects_unit : Respects less fun _ => () :=
  fun _ _ _ _ => rfl

theorem alike_unit (nonempty : run ≠ []) : Alike (fun _ => ()) run :=
  ⟨nonempty, fun _ _ _ _ => rfl⟩

theorem inOrder_singleton (a : α) : InOrder less [a] :=
  List.pairwise_singleton _ a

/-- What the first value of a run does not come before is nothing that the others do. -/
theorem InOrder.all_behind {head : α} (inOrder : InOrder less run) (ordered : Ordered less values)
    (within : run ⊆ values) (member : value ∈ values) (first : run.head? = some head)
    (between : less head value = .ok false) : ∀ b ∈ run, less b value = .ok false := by
  cases run with
  | nil => cases first
  | cons _ tail =>
    obtain rfl := Option.some.inj first
    obtain ⟨inside, others⟩ := List.cons_subset.mp within
    refine List.forall_mem_cons.mpr ⟨between, fun b later => ?_⟩
    exact ordered.trans value member _ inside b (others later) between
      ((List.pairwise_cons.mp inOrder).1 b later)

theorem InOrder.cons {head : α} (inOrder : InOrder less run) (ordered : Ordered less values)
    (within : run ⊆ values) (member : value ∈ values) (first : run.head? = some head)
    (between : less head value = .ok false) : InOrder less (value :: run) :=
  List.pairwise_cons.mpr ⟨inOrder.all_behind ordered within member first between, inOrder⟩

variable {cut : List α × List α} {result : List α}

theorem falling_inOrder (ordered : Ordered less values) (within : run ++ rest ⊆ values)
    (inOrder : InOrder less run) (done : falling less run rest = .ok cut) :
    InOrder less cut.1 := by
  fun_induction falling less run rest with
  | case1 run =>
    cases done
    exact inOrder
  | case2 run value rest head first ih =>
    obtain ⟨before, compared, done⟩ := bind_ok_iff.mp done
    cases before with
    | true =>
      have moved : (value :: run ++ rest).Perm (run ++ value :: rest) := List.perm_middle.symm
      have inside : run ⊆ values := List.Subset.trans (List.subset_append_left ..) within
      have member : value ∈ values := within (by simp)
      have between : less head value = .ok false :=
        ordered.asymm value member head (inside (List.mem_of_mem_head? first)) compared
      exact ih (within_of_perm moved within) (inOrder.cons ordered inside member first between) done
    | false =>
      cases done
      exact inOrder
  | case3 run value rest =>
    cases done
    exact inOrder

theorem rising_inOrder (ordered : Ordered less values) (within : run ++ rest ⊆ values)
    (inOrder : InOrder (ahead less .back) run) (done : rising less run rest = .ok cut) :
    InOrder less cut.1 := by
  have turned {run : List α} (inOrder : InOrder (ahead less .back) run) :
      InOrder less run.reverse := by
    rwa [← inOrder_reverse, List.reverse_reverse]
  fun_induction rising less run rest with
  | case1 run =>
    cases done
    exact turned inOrder
  | case2 run value rest head first ih =>
    obtain ⟨before, compared, done⟩ := bind_ok_iff.mp done
    cases before with
    | true =>
      cases done
      exact turned inOrder
    | false =>
      have moved : (value :: run ++ rest).Perm (run ++ value :: rest) := List.perm_middle.symm
      have inside : run ⊆ values := List.Subset.trans (List.subset_append_left ..) within
      have member : value ∈ values := within (by simp)
      exact ih (within_of_perm moved within)
        (inOrder.cons (ordered.ahead .back) inside member first compared) done
  | case3 run value rest =>
    cases done
    exact turned inOrder

theorem insertIdx_length (passing failing : List α) (value : α) :
    (passing ++ failing).insertIdx passing.length value = passing ++ value :: failing := by
  induction passing with
  | nil => rfl
  | cons first rest ih =>
    rw [List.cons_append, List.length_cons, List.insertIdx_succ_cons, ih, List.cons_append]

theorem insertAll_inOrder (ordered : Ordered less values) (within : run ++ rest ⊆ values)
    (inOrder : InOrder less run) (done : insertAll less run rest = .ok result) :
    InOrder less result := by
  induction rest generalizing run with
  | nil =>
    cases done
    exact inOrder
  | cons value rest ih =>
    obtain ⟨place, found, done⟩ := bind_ok_iff.mp done
    have inside : run ⊆ values := List.Subset.trans (List.subset_append_left ..) within
    have member : value ∈ values := within (by simp)
    obtain ⟨passing, failing, rfl, divides⟩ := inOrder.divides_behind ordered inside member
    have least : passing.length ≤ (passing ++ failing).length := by simp
    rw [halve_finds divides (Nat.zero_le _) least (Nat.le_refl _) (by omega)] at found
    obtain rfl := Except.ok.inj found
    rw [insertIdx_length] at done
    have moved : (passing ++ value :: failing ++ rest).Perm (passing ++ failing ++ value :: rest) :=
      (List.perm_middle.append_right rest).trans List.perm_middle.symm
    obtain ⟨front, behind, between⟩ := List.pairwise_append.mp inOrder
    refine ih (within_of_perm moved within) (List.pairwise_append.mpr ⟨front, ?_, ?_⟩) done
    · refine List.pairwise_cons.mpr ⟨fun b later => ?_, behind⟩
      have compared := negate_ok_iff.mp (divides.behind b later)
      exact ordered.asymm value member b (inside (List.mem_append_right _ later)) compared
    · refine fun a early => List.forall_mem_cons.mpr ⟨?_, between a early⟩
      exact negate_ok_iff.mp (divides.front a early)

theorem nextRun_inOrder {all : List α} (ordered : Ordered less values) (least : Nat)
    (within : all ⊆ values) (done : nextRun less least all = .ok cut) : InOrder less cut.1 := by
  match all with
  | [] =>
    cases done
    exact .nil
  | [value] =>
    cases done
    exact inOrder_singleton value
  | first :: second :: rest =>
    have swapped : ([second, first] ++ rest).Perm (first :: second :: rest) := .swap ..
    have inside : [second, first] ++ rest ⊆ values := within_of_perm swapped within
    have finished {begun : List α × List α} (inOrder : InOrder less begun.1)
        (same : begun.1 ++ begun.2 ⊆ values)
        (done : lengthen less least begun.1 begun.2 = .ok cut) : InOrder less cut.1 := by
      obtain ⟨run, inserted, done⟩ := bind_ok_iff.mp done
      cases done
      refine insertAll_inOrder ordered (List.append_subset.mpr ?_) inOrder inserted
      obtain ⟨front, behind⟩ := List.append_subset.mp same
      exact ⟨front, List.Subset.trans (List.take_subset ..) behind⟩
    have alike : Alike (fun _ => ()) [second, first] := alike_unit (List.cons_ne_nil _ _)
    have alone : [first] ⊆ values := List.cons_subset.mpr ⟨within (by simp), List.nil_subset _⟩
    obtain ⟨before, compared, done⟩ := bind_ok_iff.mp done
    cases before with
    | true =>
      obtain ⟨begun, found, done⟩ := bind_ok_iff.mp done
      have same := ((falling_among respects_unit inside alike).ensures found).perm
      have between := ordered.asymm second (within (by simp)) first (within (by simp)) compared
      have start : InOrder less [second, first] :=
        (inOrder_singleton first).cons ordered alone (within (by simp)) rfl between
      exact finished (falling_inOrder ordered inside start found) (within_of_perm same inside) done
    | false =>
      obtain ⟨begun, found, done⟩ := bind_ok_iff.mp done
      have same := ((rising_among respects_unit inside alike).ensures found).perm
      have start : InOrder (ahead less .back) [second, first] := (inOrder_singleton first).cons
        (ordered.ahead .back) alone (within (by simp)) rfl compared
      exact finished (rising_inOrder ordered inside start found) (within_of_perm same inside) done

end Sorting

end TokenLexer
