/-!
# Computations that leave a trace

A computation that notes what happens on the way and then succeeds or fails. What
was noted before a failure stays noted. A computation may also go on from the notes
that were made before it, and depend on them. Main statements: sequencing is
lawful, for both.
-/

namespace TokenLexer

/-- Notes of type `ν`, then a result or an error. -/
structure Traced (ν ε α : Type) where
  trace : List ν
  result : Except ε α

namespace Traced

variable {ν ε α β : Type}

protected def pure (value : α) : Traced ν ε α :=
  ⟨[], .ok value⟩

protected def bind (first : Traced ν ε α) (next : α → Traced ν ε β) : Traced ν ε β :=
  match first.result with
  | .ok value => ⟨first.trace ++ (next value).trace, (next value).result⟩
  | .error error => ⟨first.trace, .error error⟩

instance : Monad (Traced ν ε) where
  pure := Traced.pure
  bind := Traced.bind

/-- A computation that notes nothing. -/
def ofExcept (result : Except ε α) : Traced ν ε α :=
  ⟨[], result⟩

/-- Notes one thing. -/
def note (event : ν) : Traced ν ε Unit :=
  ⟨[event], .ok ()⟩

/-- Fails. -/
def fail (error : ε) : Traced ν ε α :=
  ⟨[], .error error⟩

/-- Puts another error in the place of one. -/
def mapError (change : ε → ε) (computation : Traced ν ε α) : Traced ν ε α :=
  ⟨computation.trace, computation.result.mapError change⟩

@[ext] theorem ext {a b : Traced ν ε α} (trace : a.trace = b.trace) (result : a.result = b.result) :
    a = b := by
  cases a
  cases b
  simp_all

@[simp] theorem pure_eq (value : α) : (pure value : Traced ν ε α) = ⟨[], .ok value⟩ := rfl

@[simp] theorem result_ofExcept (result : Except ε α) :
    (ofExcept result : Traced ν ε α).result = result := rfl

@[simp] theorem result_note (event : ν) : (note event : Traced ν ε Unit).result = .ok () := rfl

@[simp] theorem result_fail (error : ε) : (fail error : Traced ν ε α).result = .error error := rfl

@[simp] theorem result_mapError (change : ε → ε) (computation : Traced ν ε α) :
    (computation.mapError change).result = computation.result.mapError change := rfl

/-- Without its notes a computation is one that succeeds or fails. -/
@[simp] theorem result_bind (first : Traced ν ε α) (next : α → Traced ν ε β) :
    (first >>= next).result = first.result >>= fun value => (next value).result := by
  rcases first with ⟨trace, _ | _⟩ <;> rfl

theorem bind_ok {first : Traced ν ε α} {value : α} (done : first.result = .ok value)
    (next : α → Traced ν ε β) :
    first >>= next = ⟨first.trace ++ (next value).trace, (next value).result⟩ := by
  simp [bind, Traced.bind, done]

theorem bind_error {first : Traced ν ε α} {error : ε} (failed : first.result = .error error)
    (next : α → Traced ν ε β) : first >>= next = ⟨first.trace, .error error⟩ := by
  simp [bind, Traced.bind, failed]

instance : LawfulMonad (Traced ν ε) := by
  refine LawfulMonad.mk' _ ?_ ?_ ?_
  · intro α x
    rcases x with ⟨trace, _ | _⟩ <;> simp [Functor.map, Traced.bind, Traced.pure]
  · intro α β value next
    simp [bind, pure, Traced.bind, Traced.pure]
  · intro α β γ x f g
    rcases x with ⟨trace, error | value⟩
    · simp [bind, Traced.bind]
    · rcases found : (f value).result with error | other <;> simp [bind, Traced.bind, found]

end Traced

/-- A computation that goes on from the notes that were made before it. -/
def Ongoing (ν ε α : Type) :=
  List ν → Traced ν ε α

namespace Ongoing

variable {ν ε α β : Type}

protected def pure (value : α) : Ongoing ν ε α := fun _ =>
  .pure value

/-- The second computation goes on from the notes of the first. -/
protected def bind (first : Ongoing ν ε α) (next : α → Ongoing ν ε β) : Ongoing ν ε β := fun past =>
  (first past).bind fun value => next value (past ++ (first past).trace)

instance : Monad (Ongoing ν ε) where
  pure := Ongoing.pure
  bind := Ongoing.bind

/-- A computation that notes nothing. -/
def ofExcept (result : Except ε α) : Ongoing ν ε α := fun _ =>
  .ofExcept result

/-- Notes one thing. -/
def note (event : ν) : Ongoing ν ε Unit := fun _ =>
  .note event

/-- Fails. -/
def fail (error : ε) : Ongoing ν ε α := fun _ =>
  .fail error

/-- The notes that were made before. -/
def past : Ongoing ν ε (List ν) := fun past =>
  .pure past

@[ext] theorem ext {a b : Ongoing ν ε α} (same : ∀ past, a past = b past) : a = b :=
  funext same

@[simp] theorem pure_apply (value : α) (past : List ν) :
    (pure value : Ongoing ν ε α) past = ⟨[], .ok value⟩ := rfl

theorem bind_apply (first : Ongoing ν ε α) (next : α → Ongoing ν ε β) (past : List ν) :
    (first >>= next) past =
      first past >>= fun value => next value (past ++ (first past).trace) := rfl

theorem bind_result_ok {first : Ongoing ν ε α} {next : α → Ongoing ν ε β} {past : List ν}
    {value : β} : ((first >>= next) past).result = .ok value ↔
      ∃ middle, (first past).result = .ok middle ∧
        (next middle (past ++ (first past).trace)).result = .ok value := by
  rw [bind_apply, Traced.result_bind]
  cases (first past).result <;> simp [bind, Except.bind]

theorem trace_bind (first : Ongoing ν ε α) (next : α → Ongoing ν ε β) (past : List ν) :
    ((first >>= next) past).trace = (first past).trace ++
      match (first past).result with
      | .ok value => (next value (past ++ (first past).trace)).trace
      | .error _ => [] := by
  rw [bind_apply]
  cases found : (first past).result with
  | error error => rw [Traced.bind_error found, List.append_nil]
  | ok value => rw [Traced.bind_ok found]

theorem trace_bind_silent {first : Ongoing ν ε α} {next : α → Ongoing ν ε β} {past : List ν}
    (silent : ∀ value past, (next value past).trace = []) :
    ((first >>= next) past).trace = (first past).trace := by
  rw [trace_bind]
  split
  · rw [silent, List.append_nil]
  · exact List.append_nil _

/-- What comes next matters only for the values that can come out of the first computation. -/
theorem bind_congr_result {first : Ongoing ν ε α} {next other : α → Ongoing ν ε β}
    (same : ∀ past value, (first past).result = .ok value → next value = other value) :
    first >>= next = first >>= other := by
  refine Ongoing.ext fun past => ?_
  rw [bind_apply, bind_apply]
  cases found : (first past).result with
  | error error => rw [Traced.bind_error found, Traced.bind_error found]
  | ok value => rw [Traced.bind_ok found, Traced.bind_ok found, same past value found]

@[simp] theorem fail_bind (error : ε) (next : α → Ongoing ν ε β) :
    (fail error : Ongoing ν ε α) >>= next = fail error := rfl

instance : LawfulMonad (Ongoing ν ε) := by
  refine LawfulMonad.mk' _ ?_ ?_ ?_
  · intro α x
    funext past
    rcases found : x past with ⟨trace, _ | _⟩ <;>
      simp [Functor.map, Ongoing.bind, Ongoing.pure, Traced.bind, Traced.pure, found]
  · intro α β value next
    funext past
    simp [bind, pure, Ongoing.bind, Ongoing.pure, Traced.bind, Traced.pure]
  · intro α β γ x f g
    funext past
    rcases found : x past with ⟨trace, error | value⟩
    · simp [bind, Ongoing.bind, Traced.bind, found]
    · rcases next : f value (past ++ trace) with ⟨others, error | other⟩ <;>
        simp [bind, Ongoing.bind, Traced.bind, found, next]

end Ongoing

end TokenLexer
