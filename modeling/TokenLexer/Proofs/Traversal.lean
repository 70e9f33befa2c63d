import Mathlib.Data.List.Forall2

/-!
# First failures

Going through a list with a computation that may fail: the first element that fails
decides the error, and the elements behind it have no influence.

Main statements: `mapM_error_iff`, `mapM_ok_iff` and `mapM_ok_iff_forall₂`.
-/

namespace TokenLexer

variable {α β ε δ : Type}

/-! ## Results -/

@[simp] theorem ok_bind (value : α) (next : α → Except ε β) : .ok value >>= next = next value := rfl

@[simp] theorem error_bind (error : ε) (next : α → Except ε β) :
    .error error >>= next = .error error := rfl

theorem bind_ok_iff {first : Except ε α} {next : α → Except ε β} {value : β} :
    first >>= next = .ok value ↔ ∃ middle, first = .ok middle ∧ next middle = .ok value := by
  cases first <;> simp

theorem bind_error_iff {first : Except ε α} {next : α → Except ε β} {error : ε} :
    first >>= next = .error error ↔
      first = .error error ∨ ∃ middle, first = .ok middle ∧ next middle = .error error := by
  cases first <;> simp

@[simp] theorem mapError_ok (change : ε → δ) (value : α) :
    (Except.ok value : Except ε α).mapError change = .ok value := rfl

@[simp] theorem mapError_error (change : ε → δ) (error : ε) :
    (Except.error error : Except ε α).mapError change = .error (change error) := rfl

theorem mapError_error_iff {change : ε → δ} {result : Except ε α} {error : δ} :
    result.mapError change = .error error ↔
      ∃ cause, result = .error cause ∧ change cause = error := by
  cases result <;> simp

theorem mapError_ok_iff {change : ε → δ} {result : Except ε α} {value : α} :
    result.mapError change = .ok value ↔ result = .ok value := by
  cases result <;> simp

theorem map_error_iff {change : α → β} {result : Except ε α} {error : ε} :
    result.map change = .error error ↔ result = .error error := by
  cases result <;> simp [Except.map]

theorem map_ok_iff {change : α → β} {result : Except ε α} {value : β} :
    result.map change = .ok value ↔ ∃ before, result = .ok before ∧ change before = value := by
  cases result <;> simp [Except.map]

/-! ## Lists of computations -/

variable {f g : α → Except ε β} {head : α} {tail list : List α}

theorem mapM_cons_error {error : ε} : (head :: tail).mapM f = .error error ↔
    f head = .error error ∨ (∃ value, f head = .ok value) ∧ tail.mapM f = .error error := by
  rw [List.mapM_cons]
  cases f head with
  | error cause => simp
  | ok value => cases tail.mapM f <;> simp [pure, Except.pure]

theorem mapM_cons_ok : (∃ values, (head :: tail).mapM f = .ok values) ↔
    (∃ value, f head = .ok value) ∧ ∃ values, tail.mapM f = .ok values := by
  rw [List.mapM_cons]
  cases f head with
  | error cause => simp
  | ok value => cases tail.mapM f <;> simp [pure, Except.pure]

/-- It succeeds just when it does for each element alone. -/
theorem mapM_ok_iff :
    (∃ values, list.mapM f = .ok values) ↔ ∀ x ∈ list, ∃ value, f x = .ok value := by
  induction list with
  | nil => simp [pure, Except.pure]
  | cons head tail ih => rw [mapM_cons_ok, ih, List.forall_mem_cons]

/-- The error is that of the first element that fails. -/
theorem mapM_error_iff {error : ε} :
    list.mapM f = .error error ↔ ∃ before first after, list = before ++ first :: after ∧
      (∀ other ∈ before, ∃ value, f other = .ok value) ∧ f first = .error error := by
  induction list with
  | nil => simp [pure, Except.pure]
  | cons head tail ih =>
    rw [mapM_cons_error]
    constructor
    · rintro (fault | ⟨passed, later⟩)
      · exact ⟨[], head, tail, rfl, nofun, fault⟩
      · obtain ⟨before, first, after, rfl, others, fault⟩ := ih.mp later
        exact ⟨head :: before, first, after, rfl, List.forall_mem_cons.mpr ⟨passed, others⟩, fault⟩
    · rintro ⟨before, first, after, split, others, fault⟩
      cases before with
      | nil =>
        obtain ⟨rfl, rfl⟩ := List.cons.inj split
        exact Or.inl fault
      | cons other before =>
        obtain ⟨rfl, rfl⟩ := List.cons.inj split
        obtain ⟨passed, others⟩ := List.forall_mem_cons.mp others
        exact Or.inr ⟨passed, ih.mpr ⟨before, first, after, rfl, others, fault⟩⟩

/-- The values are those of the elements, one by one. -/
theorem mapM_ok_iff_forall₂ {values : List β} :
    list.mapM f = .ok values ↔ List.Forall₂ (fun x value => f x = .ok value) list values := by
  induction list generalizing values with
  | nil =>
    rw [List.forall₂_nil_left_iff]
    exact ⟨fun done => (Except.ok.inj done).symm, fun none => none ▸ rfl⟩
  | cons head tail ih =>
    rw [List.mapM_cons]
    simp only [bind_ok_iff, ih]
    constructor
    · rintro ⟨first, found, others, rest, made⟩
      cases made
      exact .cons found rest
    · rintro (_ | ⟨found, rest⟩)
      exact ⟨_, found, _, rest, rfl⟩

theorem mapM_append_ok {others : List α} {values : List β} :
    (list ++ others).mapM f = .ok values ↔ ∃ first second,
      list.mapM f = .ok first ∧ others.mapM f = .ok second ∧ first ++ second = values := by
  rw [List.mapM_append]
  simp only [bind_ok_iff]
  constructor
  · rintro ⟨first, front, second, back, made⟩
    exact ⟨first, second, front, back, Except.ok.inj made⟩
  · rintro ⟨first, second, front, back, rfl⟩
    exact ⟨first, front, second, back, rfl⟩

/-- Every value comes from an element. -/
theorem mapM_mem {values : List β} {value : β} (done : list.mapM f = .ok values)
    (member : value ∈ values) : ∃ x ∈ list, f x = .ok value := by
  induction list generalizing values with
  | nil =>
    cases done
    cases member
  | cons head tail ih =>
    rw [List.mapM_cons, bind_ok_iff] at done
    obtain ⟨first, found, done⟩ := done
    obtain ⟨others, rest, done⟩ := bind_ok_iff.mp done
    cases done
    rcases List.mem_cons.mp member with rfl | later
    · exact ⟨head, List.mem_cons_self, found⟩
    · obtain ⟨x, present, same⟩ := ih rest later
      exact ⟨x, List.mem_cons_of_mem _ present, same⟩

/-- What each value is made of, all values are. -/
theorem mapM_parts {γ : Type} {make : γ → β} {values : List β}
    (each : ∀ {x value}, f x = .ok value → ∃ part, make part = value)
    (done : list.mapM f = .ok values) : ∃ parts : List γ, parts.map make = values := by
  induction list generalizing values with
  | nil =>
    cases done
    exact ⟨[], rfl⟩
  | cons head tail ih =>
    rw [List.mapM_cons, bind_ok_iff] at done
    obtain ⟨first, found, done⟩ := done
    obtain ⟨others, rest, done⟩ := bind_ok_iff.mp done
    cases done
    obtain ⟨part, rfl⟩ := each found
    obtain ⟨parts, rfl⟩ := ih rest
    exact ⟨part :: parts, rfl⟩

theorem mapM_congr_forall₂ {others : List α}
    (same : List.Forall₂ (fun x y => f x = g y) list others) : list.mapM f = others.mapM g := by
  induction same with
  | nil => rfl
  | cons head _ ih => rw [List.mapM_cons, List.mapM_cons, head, ih]

theorem mapM_congr (same : ∀ x ∈ list, f x = g x) : list.mapM f = list.mapM g :=
  mapM_congr_forall₂ (List.forall₂_same.mpr same)

/-- Whether the error is changed for each element or for the list is the same. -/
theorem mapM_mapError (change : ε → ε) :
    (list.mapM fun x => (f x).mapError change) = (list.mapM f).mapError change := by
  induction list with
  | nil => rfl
  | cons head tail ih =>
    rw [List.mapM_cons, List.mapM_cons, ih]
    cases f head with
    | error cause => rfl
    | ok value => cases tail.mapM f <;> rfl

end TokenLexer
