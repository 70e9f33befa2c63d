import TokenLexer.Proofs.Lexer.Mapping
import TokenLexer.Proofs.Lexer.Visits
import TokenLexer.Proofs.Registry.Editing

/-!
# Mappers and choices

Transforming the tokens of a choice, or choosing between transformed lexers, is the same as
long as the mapper returns a value for the token that is found. Where it returns `none` for it,
the choice as a whole finds nothing, but the choice between transformed lexers goes on with
those behind.

Main statements: `firstAnswer_map_of_kept` and `map_distributes_unless_rejected`.
-/

namespace TokenLexer

/-- What comes next does not matter behind a value or an error. -/
theorem Value.result_orNext_of_ne {attempt next : Match Value} {past : List Event}
    (decided : (attempt past).result ≠ .ok .none) :
    ((attempt >>= Value.orNext next) past).result = (attempt past).result := by
  rw [Ongoing.bind_apply, Traced.result_bind]
  cases done : (attempt past).result with
  | error error => rfl
  | ok value =>
    have present : value ≠ .none := fun none => decided (none ▸ done)
    rw [ok_bind, Value.orNext_of_ne_none present]
    rfl

theorem Value.result_orNext_of_none {attempt next : Match Value} {past : List Event}
    (none : (attempt past).result = .ok .none) :
    ((attempt >>= Value.orNext next) past).result =
      (next (past ++ (attempt past).trace)).result := by
  rw [Ongoing.bind_apply, Traced.bind_ok none]
  rfl

namespace Lexer

variable {outside : Outside} {input value : Value} {mapper : Mapper Value}
  {past reached : List Event} {head lexer first : Lexer Value}
  {tail lexers rest others : List (Lexer Value)}

/-! ## Trying lexers in turn -/

theorem answer_orElseAll (first : Lexer Value) (others : List (Lexer Value)) (input : Value) :
    (first.orElseAll others).answer outside input =
      firstAnswer outside (first :: others) input := by
  induction others generalizing first with
  | nil => exact (firstAnswer_singleton first input).symm
  | cons next others ih =>
    calc
      (first.orElseAll (next :: others)).answer outside input
        = firstAnswer outside (orElse first next :: others) input := ih _
      _ = firstAnswer outside (first :: next :: others) input := by
          simp only [firstAnswer, answer_orElse, bind_assoc, Value.orNext_bind]

/-- Of the lexers, which are asked one after another, this one is the first that does not return
`none`: `rest` are those behind it, and `reached` is what has happened when it is asked. -/
inductive Decides (outside : Outside) (input : Value) :
    List Event → List (Lexer Value) → Lexer Value → List (Lexer Value) → List Event → Prop
  | here {past : List Event} {lexer : Lexer Value} {rest : List (Lexer Value)}
      (decided : (lexer.answer outside input past).result ≠ .ok .none) :
      Decides outside input past (lexer :: rest) lexer rest past
  | behind {past reached : List Event} {head lexer : Lexer Value} {tail rest : List (Lexer Value)}
      (none : (head.answer outside input past).result = .ok .none)
      (later : Decides outside input (past ++ (head.answer outside input past).trace) tail lexer
        rest reached) :
      Decides outside input past (head :: tail) lexer rest reached

/-- A lexer that returns `none` leaves the decision to those behind it. -/
theorem firstAnswer_cons_none (none : (head.answer outside input past).result = .ok .none)
    (tail : List (Lexer Value)) (next : Value → Match Value) :
    ((firstAnswer outside (head :: tail) input >>= next) past).result =
      ((firstAnswer outside tail input >>= next)
        (past ++ (head.answer outside input past).trace)).result := by
  rw [firstAnswer, bind_assoc, Ongoing.bind_apply, Traced.bind_ok none]
  rfl

theorem Decides.result (decides : Decides outside input past lexers lexer rest reached)
    (next : Value → Match Value) :
    ((firstAnswer outside lexers input >>= next) past).result =
      ((firstAnswer outside (lexer :: rest) input >>= next) reached).result := by
  induction decides with
  | here => rfl
  | behind none _ ih => rw [firstAnswer_cons_none none, ih]

/-- There is nothing to transform where a lexer returns `none`. -/
theorem answer_mapped_none (none : (head.answer outside input past).result = .ok .none)
    (mapper : Mapper Value) :
    (mapped head mapper).answer outside input past = head.answer outside input past := by
  rw [answer_mapped, Ongoing.bind_apply, Traced.bind_ok none]
  exact Traced.ext (List.append_nil _) none.symm

theorem firstAnswer_map_cons_none (none : (head.answer outside input past).result = .ok .none) :
    (firstAnswer outside ((head :: tail).map (mapped · mapper)) input past).result =
      (firstAnswer outside (tail.map (mapped · mapper)) input
        (past ++ (head.answer outside input past).trace)).result := by
  have unchanged := answer_mapped_none none mapper
  have skipped := firstAnswer_cons_none (unchanged ▸ none) (tail.map (mapped · mapper)) pure
  rw [List.map_cons]
  simpa only [bind_pure, unchanged] using skipped

theorem Decides.result_mapped (decides : Decides outside input past lexers lexer rest reached) :
    (firstAnswer outside (lexers.map (mapped · mapper)) input past).result =
      (firstAnswer outside ((lexer :: rest).map (mapped · mapper)) input reached).result := by
  induction decides with
  | here => rfl
  | behind none _ ih => rw [firstAnswer_map_cons_none none, ih]

theorem Decides.decided (decides : Decides outside input past lexers lexer rest reached) :
    (lexer.answer outside input reached).result ≠ .ok .none := by
  induction decides with
  | here decided => exact decided
  | behind _ _ ih => exact ih

/-- Where no lexer decides, there is nothing to transform. -/
theorem firstAnswer_undecided
    (never : ∀ lexer rest reached, ¬Decides outside input past lexers lexer rest reached)
    (mapper : Mapper Value) :
    (firstAnswer outside lexers input past).result = .ok .none ∧
      (firstAnswer outside (lexers.map (mapped · mapper)) input past).result = .ok .none := by
  induction lexers generalizing past with
  | nil => exact ⟨rfl, rfl⟩
  | cons head tail ih =>
    have none : (head.answer outside input past).result = .ok .none := by
      by_contra decided
      exact never _ _ _ (.here decided)
    have skipped := firstAnswer_cons_none none tail pure
    rw [bind_pure, bind_pure] at skipped
    rw [skipped, firstAnswer_map_cons_none none]
    exact ih fun lexer rest reached later => never lexer rest reached (.behind none later)

/-! ## The lexer that decides -/

theorem Decides.failed {error : Error}
    (decides : Decides outside input past lexers lexer rest reached)
    (failed : (lexer.answer outside input reached).result = .error error) :
    ((firstAnswer outside lexers input >>= mapper.onValue outside) past).result = .error error ∧
      (firstAnswer outside (lexers.map (mapped · mapper)) input past).result = .error error := by
  constructor
  · rw [decides.result, firstAnswer, bind_assoc, Ongoing.bind_apply, Traced.bind_error failed]
  · rw [decides.result_mapped, List.map_cons, firstAnswer, answer_mapped, bind_assoc,
      Ongoing.bind_apply, Traced.bind_error failed]

theorem Decides.found (decides : Decides outside input past lexers lexer rest reached)
    (found : (lexer.answer outside input reached).result = .ok value) (mapper : Mapper Value) :
    ((firstAnswer outside lexers input >>= mapper.onValue outside) past).result =
        (mapper.call outside value (reached ++ (lexer.answer outside input reached).trace)).result ∧
      (firstAnswer outside (lexers.map (mapped · mapper)) input past).result =
        ((mapper.call outside value >>=
          Value.orNext (firstAnswer outside (rest.map (mapped · mapper)) input))
            (reached ++ (lexer.answer outside input reached).trace)).result := by
  have present : value ≠ .none := by
    rintro rfl
    exact decides.decided found
  constructor
  · rw [decides.result, firstAnswer, bind_assoc, Ongoing.bind_apply, Traced.bind_ok found,
      Value.orNext_of_ne_none present, pure_bind, Mapper.onValue_of_ne_none present]
  · rw [decides.result_mapped, List.map_cons, firstAnswer, answer_mapped, bind_assoc,
      Ongoing.bind_apply, Traced.bind_ok found, Mapper.onValue_of_ne_none present]

/-! ## Mappers that keep every token -/

/-- If the mapper returns a value for every token that the lexers find, it does not matter
whether it is behind the choice or behind each lexer. -/
theorem firstAnswer_map_of_kept
    (kept : ∀ lexer ∈ lexers, ∀ past value, (lexer.answer outside input past).result = .ok value →
      value ≠ .none → ∀ later, (mapper.call outside value later).result ≠ .ok .none) :
    firstAnswer outside (lexers.map (mapped · mapper)) input =
      firstAnswer outside lexers input >>= mapper.onValue outside := by
  induction lexers with
  | nil => rfl
  | cons head tail ih =>
    obtain ⟨first, others⟩ := List.forall_mem_cons.mp kept
    rw [List.map_cons, firstAnswer, firstAnswer, answer_mapped, bind_assoc, bind_assoc, ih others]
    refine Ongoing.bind_congr_result fun past value found => ?_
    by_cases present : value = .none
    · subst present
      rw [Mapper.onValue, pure_bind, Value.orNext_none, Value.orNext_none]
    rw [Value.orNext_of_ne_none present, pure_bind, Mapper.onValue_of_ne_none present]
    calc
      mapper.call outside value >>= Value.orNext _ = mapper.call outside value >>= pure := by
        refine Ongoing.bind_congr_result fun later returned done => ?_
        refine Value.orNext_of_ne_none (fun none => ?_) _
        exact first past value found present later (none ▸ done)
      _ = mapper.call outside value := bind_pure _

/-! ## Both ways of building -/

/-- Falls back from the first lexer to the others, one after another. -/
def orAll (first : Lexer Value) (others : List (Lexer Value)) : Except Error (Lexer Value) :=
  others.foldlM (fun lexer other => lexer.or (.lexer other)) first

/-- Transforms the tokens of the choice between the lexers. -/
def mapOfChoice (mapper : Value) (first : Lexer Value) (others : List (Lexer Value)) :
    Except Error (Lexer Value) := do
  (← first.orAll others).map mapper

/-- Chooses between the lexers with their tokens transformed. -/
def choiceOfMaps (mapper : Value) (first : Lexer Value) (others : List (Lexer Value)) :
    Except Error (Lexer Value) := do
  (← first.map mapper).orAll (← others.mapM (·.map mapper))

theorem orAll_ok (first : Lexer Value) (others : List (Lexer Value)) :
    first.orAll others = .ok (first.orElseAll others) := by
  induction others generalizing first with
  | nil => rfl
  | cons next others ih => exact ih (orElse first next)

theorem mapOfChoice_ok (callable : (Value.mapper mapper).isCallable = true) :
    mapOfChoice (.mapper mapper) first others = .ok (.mapped (first.orElseAll others) mapper) := by
  rw [mapOfChoice, orAll_ok, ok_bind, map_callable callable]

theorem choiceOfMaps_ok (callable : (Value.mapper mapper).isCallable = true) :
    choiceOfMaps (.mapper mapper) first others =
      .ok ((mapped first mapper).orElseAll (others.map (mapped · mapper))) := by
  have each : others.mapM (·.map (.mapper mapper)) = .ok (others.map (mapped · mapper)) := by
    simp only [map_callable callable]
    exact List.mapM_pure
  rw [choiceOfMaps, map_callable callable, ok_bind, each, ok_bind, orAll_ok]

theorem answer_mapOfChoice : (mapped (first.orElseAll others) mapper).answer outside input =
    firstAnswer outside (first :: others) input >>= mapper.onValue outside := by
  rw [answer_mapped, answer_orElseAll]

theorem answer_choiceOfMaps :
    ((mapped first mapper).orElseAll (others.map (mapped · mapper))).answer outside input =
      firstAnswer outside ((first :: others).map (mapped · mapper)) input := by
  rw [answer_orElseAll, List.map_cons]

/-! ## Lexers without a memory -/

theorem choiceOfMaps_stateless {next : Lexer Value} {more : List (Lexer Value)}
    {behind : Lexer Value} (stateless : mapper.Stateless outside)
    (callable : (Value.mapper mapper).isCallable = true)
    (each : ∀ lexer ∈ next :: more, lexer.Stateless outside)
    (made : choiceOfMaps (.mapper mapper) next more = .ok behind) : behind.Stateless outside := by
  rw [choiceOfMaps_ok callable] at made
  cases made
  obtain ⟨front, back⟩ := List.forall_mem_cons.mp each
  refine orElseAll_induction .orElse (front.mapped stateless) fun lexer member => ?_
  obtain ⟨inner, present, rfl⟩ := List.mem_map.mp member
  exact (back inner present).mapped stateless

/-- Lexers without a memory may as well be asked alone. -/
theorem decides_of_stateless {before : List (Lexer Value)}
    (each : ∀ other ∈ before ++ lexer :: rest, other.Stateless outside)
    (silent : ∀ other ∈ before, other.tryMatch input outside = .ok none)
    (active : lexer.tryMatch input outside ≠ .ok none) (past : List Event) :
    ∃ reached, Decides outside input past (before ++ lexer :: rest) lexer rest reached := by
  induction before generalizing past with
  | nil =>
    refine ⟨past, .here fun none => active ?_⟩
    exact (each lexer List.mem_cons_self input [] past).trans (answer_none_iff.mp none)
  | cons head tail ih =>
    obtain ⟨none, others⟩ := List.forall_mem_cons.mp silent
    obtain ⟨stateless, further⟩ := List.forall_mem_cons.mp each
    obtain ⟨reached, later⟩ := ih further others (past ++ (head.answer outside input past).trace)
    exact ⟨reached, .behind (answer_none_iff.mpr ((stateless input past []).trans none)) later⟩

/-- What transforming the tokens of a choice between lexers does, the `whole`, against choosing
between the lexers with their tokens transformed, the `parts`. Both find nothing where no lexer
decides, both fail with the one that decides, and both end as the call of the mapper with its
value, except where this call returns `none`. Then the first finds nothing, and the second goes
on with the lexers behind, if there are any. -/
structure DistributesUnlessRejected (outside : Outside) (mapper : Mapper Value)
    (first : Lexer Value) (others : List (Lexer Value)) (whole parts : Lexer Value) : Prop where
  undecided : ∀ input past,
    (∀ lexer rest reached, ¬Decides outside input past (first :: others) lexer rest reached) →
    (whole.answer outside input past).result = .ok .none ∧
      (parts.answer outside input past).result = .ok .none
  failed : ∀ input past lexer rest reached error,
    Decides outside input past (first :: others) lexer rest reached →
    (lexer.answer outside input reached).result = .error error →
    (whole.answer outside input past).result = .error error ∧
      (parts.answer outside input past).result = .error error
  kept : ∀ input past lexer rest reached value outcome,
    Decides outside input past (first :: others) lexer rest reached →
    (lexer.answer outside input reached).result = .ok value →
    (mapper.call outside value []).result = outcome → outcome ≠ .ok .none →
    (whole.answer outside input past).result = outcome ∧
      (parts.answer outside input past).result = outcome
  rejected : ∀ input past lexer rest reached value,
    Decides outside input past (first :: others) lexer rest reached →
    (lexer.answer outside input reached).result = .ok value →
    (mapper.call outside value []).result = .ok .none →
    (whole.answer outside input past).result = .ok .none ∧
      (rest = [] → (parts.answer outside input past).result = .ok .none) ∧
      ∀ next more, rest = next :: more →
        ∃ behind, choiceOfMaps (.mapper mapper) next more = .ok behind ∧
          let called := reached ++ (lexer.answer outside input reached).trace
          (parts.answer outside input past).result =
            (behind.answer outside input
              (called ++ (mapper.call outside value called).trace)).result
  sound : ∀ input, (∀ lexer ∈ first :: others, ∀ past value,
      (lexer.answer outside input past).result = .ok value → value ≠ .none →
      (mapper.call outside value []).result ≠ .ok .none) →
    whole.answer outside input = parts.answer outside input
  alone : (∀ lexer ∈ first :: others, lexer.Stateless outside) →
    ∀ input past before lexer rest, first :: others = before ++ lexer :: rest →
      (∀ other ∈ before, other.tryMatch input outside = .ok none) →
      lexer.tryMatch input outside ≠ .ok none →
      (∃ reached, Decides outside input past (first :: others) lexer rest reached) ∧
      ∀ next more behind, rest = next :: more →
        choiceOfMaps (.mapper mapper) next more = .ok behind → behind.Stateless outside

/-- Both ways of building are possible, and do the same unless the mapper rejects a token. So they
do the same with every input for which the mapper keeps every token. Lexers without a memory may
be asked alone to see which one decides. -/
theorem map_distributes_unless_rejected (callable : (Value.mapper mapper).isCallable = true)
    (stateless : mapper.Stateless outside) (first : Lexer Value) (others : List (Lexer Value)) :
    ∃ whole parts, mapOfChoice (.mapper mapper) first others = .ok whole ∧
      choiceOfMaps (.mapper mapper) first others = .ok parts ∧
      DistributesUnlessRejected outside mapper first others whole parts := by
  refine ⟨_, _, mapOfChoice_ok callable, choiceOfMaps_ok callable, ?_⟩
  constructor
  case undecided =>
    intro input past never
    obtain ⟨none, parts⟩ := firstAnswer_undecided never mapper
    rw [answer_mapOfChoice, answer_choiceOfMaps, Ongoing.bind_apply, Traced.bind_ok none]
    exact ⟨rfl, parts⟩
  case failed =>
    intro input past lexer rest reached error decides failed
    rw [answer_mapOfChoice, answer_choiceOfMaps]
    exact decides.failed failed
  case kept =>
    rintro input past lexer rest reached value _ decides found rfl kept
    obtain ⟨whole, parts⟩ := decides.found found mapper
    rw [answer_mapOfChoice, answer_choiceOfMaps, whole, parts]
    rw [← stateless value (reached ++ (lexer.answer outside input reached).trace) []] at kept ⊢
    exact ⟨rfl, Value.result_orNext_of_ne kept⟩
  case rejected =>
    intro input past lexer rest reached value decides found none
    obtain ⟨whole, parts⟩ := decides.found found mapper
    have none := (stateless value (reached ++ (lexer.answer outside input reached).trace) []).trans
      none
    rw [answer_mapOfChoice, answer_choiceOfMaps, whole, parts]
    refine ⟨none, ?_, ?_⟩
    · rintro rfl
      exact Value.result_orNext_of_none none
    · rintro next more rfl
      refine ⟨_, choiceOfMaps_ok callable, ?_⟩
      rw [answer_choiceOfMaps]
      exact Value.result_orNext_of_none none
  case sound =>
    intro input kept
    rw [answer_mapOfChoice, answer_choiceOfMaps]
    refine (firstAnswer_map_of_kept fun lexer member past value found present later => ?_).symm
    rw [stateless value later []]
    exact kept lexer member past value found present
  case alone =>
    intro each input past before lexer rest split silent active
    rw [split] at each ⊢
    refine ⟨decides_of_stateless each silent active past, ?_⟩
    rintro next more behind rfl made
    refine choiceOfMaps_stateless stateless callable (fun lexer member => each lexer ?_) made
    exact List.mem_append_right _ (List.mem_cons_of_mem _ member)

/-- The first lexer finds a token that a condition takes for false, and the mapper rejects it. -/
theorem map_distributes_past_blank :
    ∃ whole parts,
      mapOfChoice (.mapper (.function .nonblank)) (.constant (.text [])) [.constant (.int 7)] =
        .ok whole ∧
      choiceOfMaps (.mapper (.function .nonblank)) (.constant (.text [])) [.constant (.int 7)] =
        .ok parts ∧
      (whole.answer .nothing (.text []) []).result = .ok .none ∧
      (parts.answer .nothing (.text []) []).result = .ok (.int 7) := by
  have stateless : (Mapper.function .nonblank).Stateless .nothing := fun _ _ _ => rfl
  obtain ⟨whole, parts, madeWhole, madeParts, distributes⟩ :=
    map_distributes_unless_rejected rfl stateless (.constant (.text [])) [.constant (.int 7)]
  have decides : Decides .nothing (.text []) [] [.constant (.text []), .constant (.int 7)]
      (.constant (.text [])) [.constant (.int 7)] [] := .here nofun
  obtain ⟨none, _, further⟩ := distributes.rejected _ _ _ _ _ _ decides rfl rfl
  obtain ⟨behind, made, same⟩ := further _ _ rfl
  cases made
  exact ⟨whole, parts, madeWhole, madeParts, none, same⟩

end Lexer

end TokenLexer
