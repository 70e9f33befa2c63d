import TokenLexer.Proofs.Lexer.Memory
import TokenLexer.Proofs.Session.Snapshots

/-!
# Equality of lexers

Two lexers are equal when they have the same shape, equal patterns at the same places, and the
same functions for mappers. Equality looks through a recording lexer at the lexer inside, and
not at what it has recorded: so equal lexers cannot be told apart by what they answer, and no
match makes equal lexers different or different ones equal.

Main statements: `Lexer.Plain.same_iff`, `Lexer.Equal.run_alike` and
`Lexer.equality_sound_and_stable`.
-/

namespace TokenLexer

open Match (Alike)

/-! ## Equality of patterns -/

namespace Pattern

variable {leaf other last : Pattern Value}

theorem same_refl (leaf : Pattern Value) : leaf.same leaf = true := by
  cases leaf <;> simp [same]

theorem same_symm (same : leaf.same other = true) : other.same leaf = true := by
  cases leaf <;> cases other <;> simp_all [Pattern.same]

theorem same_trans (same : leaf.same other = true) (next : other.same last = true) :
    leaf.same last = true := by
  cases leaf <;> cases other <;> cases last <;> simp_all [Pattern.same]

/-- Among these patterns, those that are equal match alike. -/
def Faithful (leaves : Pattern Value → Prop) : Prop :=
  ∀ leaf other, leaves leaf → leaves other → leaf.same other = true →
    ∀ text, leaf.fullMatch text = other.fullMatch text

/-- Equal patterns of the linear dialect were compiled from the same expression. -/
theorem faithful_compile : Faithful fun leaf => ∃ source, compile source = .ok leaf := by
  rintro leaf other ⟨source, compiled⟩ ⟨last, read⟩ same text
  obtain ⟨tree, _, rfl⟩ := compile_ok compiled
  obtain ⟨_, _, rfl⟩ := compile_ok read
  obtain rfl : source = last := by simpa [Pattern.same] using same
  rw [Except.ok.inj (compiled.symm.trans read)]

theorem token?_congr (same : ∀ text, leaf.fullMatch text = other.fullMatch text) :
    leaf.token? = other.token? := by
  funext text
  rw [token?, token?, same]

end Pattern

namespace Lexer

variable {leaves : Pattern Value → Prop} {alike : Nat → Nat → Bool}
  {lexer other last : Lexer Value}

/-! ## Equal trees -/

/-- The tree has leaves that never match or are patterns of the kind `leaves`, and functions
for mappers. -/
inductive Plain (leaves : Pattern Value → Prop) : Lexer Value → Prop
  | empty : Plain leaves .empty
  | pattern {leaf : Pattern Value} (suits : leaves leaf) : Plain leaves (.pattern leaf)
  | mapped (f : Function) {inner : Lexer Value} (inside : Plain leaves inner) :
      Plain leaves (.mapped inner (.function f))
  | orElse {first second : Lexer Value} (front : Plain leaves first) (back : Plain leaves second) :
      Plain leaves (.orElse first second)
  | recording (probe : Nat) {inner : Lexer Value} (inside : Plain leaves inner) :
      Plain leaves (.recording probe inner)

/-- The trees have the same shape, with equal patterns and the same functions. Which recording
lexers stand at the same place does not matter. -/
inductive Equal : Lexer Value → Lexer Value → Prop
  | empty : Equal .empty .empty
  | pattern {leaf other : Pattern Value} (same : leaf.same other = true) :
      Equal (.pattern leaf) (.pattern other)
  | mapped (f : Function) {inner other : Lexer Value} (inside : Equal inner other) :
      Equal (.mapped inner (.function f)) (.mapped other (.function f))
  | orElse {first second front back : Lexer Value} (left : Equal first front)
      (right : Equal second back) : Equal (.orElse first second) (.orElse front back)
  | recording (probe recorder : Nat) {inner other : Lexer Value} (inside : Equal inner other) :
      Equal (.recording probe inner) (.recording recorder other)

theorem Equal.same (equal : lexer.Equal other) : lexer.same alike other = true := by
  induction equal with
  | empty => simp [Lexer.same]
  | pattern same => simpa [Lexer.same] using same
  | mapped f _ ih => simp [Lexer.same, Mapper.same, ih]
  | orElse _ _ front back => simp [Lexer.same, front, back]
  | recording probe recorder _ ih => simpa [Lexer.same] using ih

/-- Whether two lexers are equal does not depend on what counters have counted, as there are
none. -/
theorem Plain.same_iff (plain : lexer.Plain leaves) :
    lexer.same alike other = true ↔ lexer.Equal other := by
  refine ⟨fun same => ?_, Equal.same⟩
  induction plain generalizing other with
  | empty =>
    cases other <;> simp [Lexer.same] at same
    exact .empty
  | pattern suits =>
    cases other <;> simp [Lexer.same] at same
    exact .pattern same
  | mapped f _ ih =>
    cases other with
    | mapped inner mapper =>
      cases mapper <;> simp [Lexer.same, Mapper.same] at same
      obtain ⟨inside, rfl⟩ := same
      exact .mapped f (ih inside)
    | _ => simp [Lexer.same] at same
  | orElse _ _ front back =>
    cases other <;> simp [Lexer.same] at same
    exact .orElse (front same.1) (back same.2)
  | recording probe _ ih =>
    cases other <;> simp [Lexer.same] at same
    exact .recording probe _ (ih same)

theorem Plain.equal (plain : lexer.Plain leaves) : lexer.Equal lexer := by
  induction plain with
  | empty => exact .empty
  | pattern => exact .pattern (Pattern.same_refl _)
  | mapped f _ ih => exact .mapped f ih
  | orElse _ _ front back => exact .orElse front back
  | recording probe _ ih => exact .recording probe probe ih

theorem Equal.symm (equal : lexer.Equal other) : other.Equal lexer := by
  induction equal with
  | empty => exact .empty
  | pattern same => exact .pattern (Pattern.same_symm same)
  | mapped f _ ih => exact .mapped f ih
  | orElse _ _ front back => exact .orElse front back
  | recording probe recorder _ ih => exact .recording recorder probe ih

theorem Equal.trans (equal : lexer.Equal other) (next : other.Equal last) : lexer.Equal last := by
  induction equal generalizing last with
  | empty => exact next
  | pattern same =>
    cases next with
    | pattern later => exact .pattern (Pattern.same_trans same later)
  | mapped f _ ih =>
    cases next with
    | mapped _ inside => exact .mapped f (ih inside)
  | orElse _ _ front back =>
    cases next with
    | orElse left right => exact .orElse (front left) (back right)
  | recording probe recorder _ ih =>
    cases next with
    | recording _ last inside => exact .recording probe last (ih inside)

/-! ## What equal lexers have in common -/

theorem Equal.depth (equal : lexer.Equal other) : lexer.depth = other.depth := by
  induction equal with
  | empty | pattern | recording => rfl
  | mapped f _ ih => rw [Lexer.depth, Lexer.depth, ih]
  | orElse _ _ front back => rw [Lexer.depth, Lexer.depth, front, back]

theorem Equal.branches (equal : lexer.Equal other) :
    List.Forall₂ Equal lexer.branches other.branches := by
  induction equal with
  | orElse _ _ front back =>
    rw [branches_orElse, branches_orElse]
    exact List.rel_append front back
  | empty => exact .cons .empty .nil
  | pattern same => exact .cons (.pattern same) .nil
  | mapped f inside => exact .cons (.mapped f inside) .nil
  | recording probe recorder inside => exact .cons (.recording probe recorder inside) .nil

/-- Matches by equal lexers have the same results and make the same calls. -/
theorem Equal.run_alike (faithful : Pattern.Faithful leaves) (plain : lexer.Plain leaves)
    (others : other.Plain leaves) (equal : lexer.Equal other) (outside : Outside) (input : Value) :
    Alike (lexer.run outside input) (other.run outside input) := by
  induction equal with
  | empty => exact (run_recalls outside .empty input).alike
  | @pattern leaf other same =>
    cases plain with
    | pattern suits =>
      cases others with
      | pattern fits =>
        rw [run, run, Pattern.token?_congr (faithful leaf other suits fits same)]
        exact (onText_recalls input _).alike
  | mapped f _ ih =>
    cases plain with
    | mapped _ left =>
      cases others with
      | mapped _ right =>
        exact mapped_alike (ih left right) fun token =>
          (Mapper.call_recalls outside (.function f) token).alike
  | orElse _ _ front back =>
    cases plain with
    | orElse left right =>
      cases others with
      | orElse first second => exact orElse_alike (front left first) (back right second)
  | recording probe recorder _ ih =>
    cases plain with
    | recording _ left =>
      cases others with
      | recording _ right => exact recording_alike probe recorder (ih left right)

theorem Equal.answer_result (faithful : Pattern.Faithful leaves) (plain : lexer.Plain leaves)
    (others : other.Plain leaves) (equal : lexer.Equal other) (outside : Outside) (input : Value)
    (past : List Event) :
    (lexer.answer outside input past).result = (other.answer outside input past).result :=
  (answer_alike (equal.run_alike faithful plain others outside input) past past rfl).1

end Lexer

/-! ## Asking whether two lexers are equal -/

namespace Session

variable {leaves : Pattern Value → Prop} {session : Session} {left right : String}
  {held twin : Held} {lexer other : Lexer Value}

theorem read_both_run {next : Held → Held → Run Response}
    (first : session.Gives (read left) held) (second : session.Gives (read right) twin) :
    (do next (← read left) (← read right)).run.run session = (next held twin).run.run session := by
  rw [(read_keeps left).bind_ok first, (read_keeps right).bind_ok second]

theorem ask_equal_gives (first : session.Gives (read left) held)
    (second : session.Gives (read right) twin) :
    session.Gives (ask (.equal (.register left) (.register right)))
      (.flag (equals session.probes held twin)) :=
  congrArg Prod.fst (read_both_run first second)

theorem ask_identical_gives (first : session.Gives (read left) held)
    (second : session.Gives (read right) twin) :
    session.Gives (ask (.identical (.register left) (.register right)))
      (.flag (held.identity.same twin.identity held.value twin.value)) :=
  congrArg Prod.fst (read_both_run first second)

/-- The session takes lexers for equal when their trees are, or when they are one object. -/
theorem equals_lexers (probes : Probes) (plain : lexer.Plain leaves)
    (first : held.value = .lexer lexer) (second : twin.value = .lexer other)
    (alike : Nat → Nat → Bool) :
    equals probes held twin = true ↔ lexer.same alike other = true ∨
      held.identity.same twin.identity held.value twin.value = true := by
  obtain ⟨value, identity, growing⟩ := held
  obtain ⟨_, named, _⟩ := twin
  subst first second
  rw [plain.same_iff]
  cases identity <;> cases named <;>
    simp [equals, Value.same, Identity.same, Value.sameKey, plain.same_iff, or_comm]

/-- Whatever is asked to match, the answer stays the one that the trees give. -/
theorem equal_flag (plain : lexer.Plain leaves) (first : session.Holds left (.lexer lexer))
    (second : session.Holds right (.lexer other)) (alike : Nat → Nat → Bool) :
    ∃ flag,
      (flag = true ↔ lexer.same alike other = true ∨
        session.Gives (ask (.identical (.register left) (.register right))) (.flag true)) ∧
      ∀ queries : List (String × Argument),
        (session.after (queries.map fun query => .ask (.tryMatch query.1 query.2))).Gives
          (ask (.equal (.register left) (.register right))) (.flag flag) := by
  obtain ⟨held, value, found⟩ := first.lexer
  obtain ⟨twin, meant, named⟩ := second.lexer
  have counted (probes : Probes) := equals_lexers probes plain value meant alike
  have identical := ask_identical_gives (found session.probes) (named session.probes)
  refine ⟨equals session.probes held twin, ?_, fun queries => ?_⟩
  · rw [counted]
    refine or_congr_right ⟨fun one => ?_, fun one => ?_⟩
    · rw [one] at identical
      exact identical
    · exact Response.flag.inj (Except.ok.inj (identical.symm.trans one))
  · -- The matches change the probes alone, and the comparison does not depend on them.
    have same (probes : Probes) : equals session.probes held twin = equals probes held twin :=
      Bool.eq_iff_iff.mpr ((counted _).trans (counted _).symm)
    rw [after_tryMatch, same]
    exact ask_equal_gives (found _) (named _)

end Session

/-! ## Equality -/

namespace Lexer

/-- Among lexers with functions for mappers, over patterns that match alike if they are equal,
equality is an equivalence that is kept by transforming tokens, by falling back and by recording.
Equal lexers have the same tokens and errors for every input, the same depth, and equal branches
at the same places. What any lexers are asked to match makes no difference to which lexers a
session takes for equal, and these are those with equal trees. -/
theorem equality_sound_and_stable {leaves : Pattern Value → Prop}
    (faithful : Pattern.Faithful leaves) (alike : Nat → Nat → Bool) :
    (Equivalence fun lexer other : {lexer // Plain leaves lexer} =>
      lexer.1.same alike other.1 = true) ∧
    (∀ lexer other, lexer.Plain leaves → other.Plain leaves → lexer.same alike other = true →
      (∀ f, ∃ mapped called, lexer.map (.mapper (.function f)) = .ok mapped ∧
        other.map (.mapper (.function f)) = .ok called ∧ mapped.same alike called = true) ∧
      (∀ second back, second.Plain leaves → back.Plain leaves → second.same alike back = true →
        ∃ choice turn, lexer.or (.lexer second) = .ok choice ∧ other.or (.lexer back) = .ok turn ∧
          choice.same alike turn = true) ∧
      (∀ probe recorder,
        (recording probe lexer).same alike (recording recorder other) = true) ∧
      (∀ outside input past,
        (lexer.answer outside input past).result = (other.answer outside input past).result) ∧
      lexer.depth = other.depth ∧
      List.Forall₂ (fun branch turn => branch.same alike turn = true)
        lexer.branches other.branches) ∧
    ∀ (session : Session) (left right : String) lexer other,
      lexer.Plain leaves → other.Plain leaves →
      session.Holds left (.lexer lexer) → session.Holds right (.lexer other) →
      ∃ flag,
        (flag = true ↔ lexer.same alike other = true ∨
          session.Gives (Session.ask (.identical (.register left) (.register right)))
            (.flag true)) ∧
        ∀ queries : List (String × Session.Argument),
          (session.after (queries.map fun query => .ask (.tryMatch query.1 query.2))).Gives
            (Session.ask (.equal (.register left) (.register right))) (.flag flag) := by
  refine ⟨⟨fun lexer => ?_, fun same => ?_, fun same next => ?_⟩, ?_, ?_⟩
  · exact lexer.2.equal.same
  · next lexer other => exact (lexer.2.same_iff.mp same).symm.same
  · next lexer other _ => exact ((lexer.2.same_iff.mp same).trans (other.2.same_iff.mp next)).same
  · intro lexer other plain others same
    have equal := plain.same_iff.mp same
    refine ⟨fun f => ⟨_, _, rfl, rfl, (equal.mapped f).same⟩, ?_, ?_,
      equal.answer_result faithful plain others, equal.depth,
      equal.branches.imp fun _ _ => Equal.same⟩
    · intro second back front _ meets
      exact ⟨_, _, rfl, rfl, (equal.orElse (front.same_iff.mp meets)).same⟩
    · intro probe recorder
      exact (equal.recording probe recorder).same
  · intro session left right lexer other plain _ first second
    exact Session.equal_flag plain first second alike

/-- Raises an error for `a`, finds nothing elsewhere, and takes notes of its inputs. -/
def failingOnA (probe : Nat) : Lexer Value :=
  .orElse
    (.recording probe
      (.mapped (.pattern (.linear [0x28, 0x61, 0x29] (.group 1 (.chars (.single 0x61)))))
        (.function .raise)))
    .empty

/-- Two such lexers stay equal although they take different notes. -/
theorem equal_despite_notes :
    let session : Session :=
      { registers := [("l", ⟨.lexer (failingOnA 0), .unique 2 [], none⟩),
          ("r", ⟨.lexer (failingOnA 1), .unique 3 [], none⟩)] }
    let queries : List (String × Session.Argument) :=
      [("l", .text [0x61]), ("r", .int 7), ("l", .text [0x62])]
    let later := session.after (queries.map fun query => .ask (.tryMatch query.1 query.2))
    later.probes.calls 0 = [.text [0x61], .text [0x62]] ∧ later.probes.calls 1 = [.int 7] ∧
      later.Gives (Session.ask (.equal (.register "l") (.register "r"))) (.flag true) ∧
      (∀ input, ((failingOnA 0).answer .nothing input []).result =
        ((failingOnA 1).answer .nothing input []).result) := by
  intro session queries later
  have plain (probe : Nat) :
      (failingOnA probe).Plain fun leaf => ∃ source, Pattern.compile source = .ok leaf :=
    .orElse (.recording probe (.mapped .raise (.pattern ⟨[0x28, 0x61, 0x29], by cbv⟩))) .empty
  have same : (failingOnA 0).same (fun _ _ => false) (failingOnA 1) = true := by cbv
  obtain ⟨_, sound, stable⟩ :=
    equality_sound_and_stable Pattern.faithful_compile fun _ _ => false
  obtain ⟨flag, meaning, always⟩ := stable session "l" "r" _ _ (plain 0) (plain 1)
    ⟨_, rfl, rfl⟩ ⟨_, rfl, rfl⟩
  obtain ⟨_, _, _, answers, _⟩ := sound _ _ (plain 0) (plain 1) same
  refine ⟨rfl, rfl, ?_, fun input => answers .nothing input []⟩
  rw [← meaning.mpr (.inl same)]
  exact always queries

end Lexer

end TokenLexer
