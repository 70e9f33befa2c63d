import TokenLexer.Proofs.Session.Snapshots

/-!
# Reports of missing names

A builder takes every name that can be a key, also one that is no text. What this leads to shows
later: to report that a name is missing the registered names are sorted and joined, and as soon as
one of them is no text this fails, for every missing name alike, with a type error in place of
the report. Registries whose names are texts report every missing name.

Main statements: `reportsMissing_iff`, `exists_namesEscape_iff` and
`missing_reported_unless_names_escape`.
-/

namespace TokenLexer

/-- Values are texts up to the first one that is not. -/
theorem Value.texts_or_split (values : List Value) :
    (∃ texts : List Text, values = texts.map .text) ∨
      ∃ (before : List Text) (value : Value) (after : List Value),
        values = before.map .text ++ value :: after ∧ ∀ text, value ≠ .text text := by
  induction values with
  | nil => exact .inl ⟨[], rfl⟩
  | cons value rest ih =>
    by_cases text : ∃ text, value = .text text
    · obtain ⟨text, rfl⟩ := text
      rcases ih with ⟨texts, rfl⟩ | ⟨before, other, after, rfl, different⟩
      · exact .inl ⟨text :: texts, rfl⟩
      · exact .inr ⟨text :: before, other, after, rfl, different⟩
    · exact .inr ⟨[], value, rest, rfl, fun t same => text ⟨t, same⟩⟩

namespace Registry

variable {registry : Registry} {engine : Engine} {regex : Text} {name key converter : Value}
  {error : Error} {calls entries : List (Value × Value)}

/-! ## Calls on a builder -/

/-- The registry after a call that registers a converter. A call that fails changes nothing. -/
def attempt (registry : Registry) (call : Value × Value) : Registry :=
  match registry.register call.1 call.2 with
  | .ok next => next
  | .error _ => registry

/-- The registry that is built after these calls on a new builder. -/
def ofCalls (calls : List (Value × Value)) : Registry :=
  calls.foldl attempt .empty

/-- The calls that do not fail, one after another. -/
def accepted (registry : Registry) : List (Value × Value) → List (Value × Value)
  | [] => []
  | call :: rest =>
    match registry.register call.1 call.2 with
    | .ok next => call :: next.accepted rest
    | .error _ => registry.accepted rest

theorem foldl_attempt (registry : Registry) (calls : List (Value × Value)) :
    calls.foldl attempt registry = registry.enterAll (registry.accepted calls) := by
  induction calls generalizing registry with
  | nil => rfl
  | cons call rest ih =>
    rw [List.foldl_cons, attempt, accepted]
    cases done : registry.register call.1 call.2 with
    | error error => exact ih registry
    | ok next =>
      obtain ⟨_, _, rfl⟩ := register_ok_iff.mp done
      exact ih _

/-! ## The names of a registry -/

/-- The name is registered, if need be in the spelling of an equal key. -/
def Named (registry : Registry) (name : Value) : Prop :=
  ∃ key ∈ registry.keys, key = name ∨ key.sameKey name = true

theorem keys_enter (registry : Registry) (name converter : Value) :
    (registry.enter name converter).keys =
      if registry.keys.any (·.sameKey name) then registry.keys else registry.keys ++ [name] :=
  Value.keys_insert name converter.toMapper registry.converters

theorem mem_keys_enter (member : key ∈ (registry.enter name converter).keys) :
    key ∈ registry.keys ∨ key = name := by
  rw [keys_enter] at member
  split at member
  · exact .inl member
  · exact (List.mem_append.mp member).imp_right List.mem_singleton.mp

theorem keys_subset_enter : registry.keys ⊆ (registry.enter name converter).keys := by
  rw [keys_enter]
  split
  · exact List.Subset.refl _
  · exact List.subset_append_left _ _

theorem named_enter : (registry.enter name converter).Named name := by
  rw [Named, keys_enter]
  split
  · next present =>
    obtain ⟨key, member, same⟩ := List.any_eq_true.mp present
    exact ⟨key, member, .inr same⟩
  · exact ⟨name, List.mem_append_right _ (List.mem_singleton_self name), .inl rfl⟩

theorem mem_keys_enterAll (member : key ∈ (registry.enterAll entries).keys) :
    key ∈ registry.keys ∨ key ∈ entries.map (·.1) := by
  induction entries generalizing registry with
  | nil => exact .inl member
  | cons entry rest ih =>
    rw [List.map_cons, List.mem_cons, ← or_assoc]
    exact (ih member).imp_left mem_keys_enter

theorem keys_subset_enterAll : registry.keys ⊆ (registry.enterAll entries).keys := by
  induction entries generalizing registry with
  | nil => exact List.Subset.refl _
  | cons entry rest ih => exact fun _ member => ih (keys_subset_enter member)

theorem named_enterAll (member : name ∈ entries.map (·.1)) :
    (registry.enterAll entries).Named name := by
  induction entries generalizing registry with
  | nil => cases member
  | cons entry rest ih =>
    rcases List.mem_cons.mp member with rfl | later
    · obtain ⟨key, present, same⟩ : (registry.enter entry.1 entry.2).Named entry.1 := named_enter
      have kept : key ∈ ((registry.enter entry.1 entry.2).enterAll rest).keys :=
        keys_subset_enterAll present
      exact ⟨key, kept, same⟩
    · exact ih later

/-- The names are all texts. -/
def TextKeys (registry : Registry) : Prop :=
  ∀ key ∈ registry.keys, ∃ text, key = .text text

theorem textKeys_iff :
    registry.TextKeys ↔ ∃ names : List Text, registry.keys = names.map .text := by
  constructor
  · intro texts
    obtain ⟨names, same⟩ := Value.exists_texts texts
    exact ⟨names, same.symm⟩
  · rintro ⟨names, keyed⟩ key member
    rw [keyed] at member
    obtain ⟨text, _, rfl⟩ := List.mem_map.mp member
    exact ⟨text, rfl⟩

/-- Only a text is an equal key of a text, so the names that were registered tell whether those
of the registry are texts. -/
theorem textKeys_enterAll_iff : (Registry.empty.enterAll entries).TextKeys ↔
    ∀ entry ∈ entries, ∃ text, entry.1 = .text text := by
  constructor
  · intro texts entry member
    obtain ⟨key, present, same⟩ := named_enterAll (List.mem_map_of_mem member)
    obtain ⟨text, rfl⟩ := texts key present
    rcases same with same | same
    · exact ⟨text, same.symm⟩
    · exact ⟨text, Value.text_sameKey_iff.mp same⟩
  · intro texts key member
    rcases mem_keys_enterAll member with none | among
    · cases none
    · obtain ⟨entry, registered, rfl⟩ := List.mem_map.mp among
      exact texts entry registered

/-! ## What escapes in place of a report -/

theorem firstUnjoinable_split (other : ∀ text, key ≠ .text text) (before : List Text)
    (after : List Value) (index : Nat) :
    firstUnjoinable index (before.map .text ++ key :: after) =
      some (index + before.length, key.typeName) := by
  induction before generalizing index with
  | nil =>
    cases key with
    | text t => exact (other t rfl).elim
    | _ => rfl
  | cons first rest ih =>
    rw [List.length_cons, Nat.add_comm rest.length, ← Nat.add_assoc]
    exact ih (index + 1)

/-- The names cannot be sorted, or the first of them in order that is no text cannot be joined
to those before it. -/
inductive NamesEscape (registry : Registry) : Error → Prop
  | unsorted {types : Value.Incomparable} (unordered : Value.sorted registry.keys = .error types) :
      NamesEscape registry (.incomparable types)
  | unjoined {before : List Text} {key : Value} {after : List Value}
      (ordered : Value.sorted registry.keys = .ok (before.map .text ++ key :: after))
      (other : ∀ text, key ≠ .text text) :
      NamesEscape registry (.notJoinable before.length key.typeName)

theorem NamesEscape.kind (escapes : registry.NamesEscape error) : error.kind = .type := by
  cases escapes <;> rfl

theorem NamesEscape.unknownConverter (escapes : registry.NamesEscape error) (asked : Value) :
    registry.unknownConverter asked = error := by
  unfold Registry.unknownConverter names
  cases escapes with
  | unsorted unordered =>
    rw [unordered]
    rfl
  | unjoined ordered other =>
    rw [ordered, mapError_ok]
    simp only [firstUnjoinable_split other, Nat.zero_add]

theorem NamesEscape.not_textKeys (escapes : registry.NamesEscape error) : ¬registry.TextKeys := by
  intro texts
  cases escapes with
  | unsorted unordered =>
    obtain ⟨names, keyed⟩ := textKeys_iff.mp texts
    rw [keyed, Value.sorted_texts] at unordered
    cases unordered
  | unjoined ordered other =>
    have member := (Value.sorted_perm ordered).mem_iff.mp (List.mem_append_right _
      List.mem_cons_self)
    obtain ⟨text, same⟩ := texts _ member
    exact other text same

/-- Something escapes as soon as one of the names is no text. -/
theorem exists_namesEscape_iff : (∃ error, registry.NamesEscape error) ↔ ¬registry.TextKeys := by
  constructor
  · rintro ⟨_, escapes⟩
    exact escapes.not_textKeys
  · intro mixed
    cases ordered : Value.sorted registry.keys with
    | error types => exact ⟨_, .unsorted ordered⟩
    | ok result =>
      rcases Value.texts_or_split result with ⟨names, rfl⟩ | ⟨before, key, after, rfl, other⟩
      · -- Sorting gives back the names, of which one is no text.
        refine (mixed fun key member => ?_).elim
        have sorted := (Value.sorted_perm ordered).mem_iff.mpr member
        obtain ⟨text, _, same⟩ := List.mem_map.mp sorted
        exact ⟨text, same.symm⟩
      · exact ⟨_, .unjoined ordered other⟩

/-! ## Reports -/

theorem load_missing {name : Text} (short : regex.length ≤ maxRegexLength)
    (missing : registry.contains (.text name) = .ok false) :
    (registry.load (.ofTexts [(regex, name)]) engine).result =
      .error (registry.unknownConverter (.text name)) := by
  rw [load_result (by simp [maxRules]), List.mapM_cons, loadRule_unknown short missing]
  rfl

theorem contains_text_eq_false_iff {name : Text} :
    registry.contains (.text name) = .ok false ↔ .text name ∉ registry.keys := by
  rw [contains_eq_false_iff, find?_text, Except.ok.injEq, Value.find?_text_eq_none_iff, keys]

/-- No registry has all names. -/
theorem exists_missing (registry : Registry) :
    ∃ name, registry.contains (.text name) = .ok false := by
  obtain ⟨name, fresh⟩ := Infinite.exists_notMem_finset registry.textNames.toFinset
  refine ⟨name, contains_text_eq_false_iff.mpr fun member => fresh ?_⟩
  exact List.mem_toFinset.mpr (List.mem_filterMap.mpr ⟨.text name, member, rfl⟩)

/-- The names can be listed, and loading a rule reports its name when that is missing, along with
the names that can be listed. -/
def ReportsMissing (registry : Registry) : Prop :=
  ∃ names, registry.names = .ok names ∧ names.Perm registry.keys ∧
    ∀ engine regex name, regex.length ≤ maxRegexLength →
      registry.contains (.text name) = .ok false →
      (registry.load (.ofTexts [(regex, name)]) engine).result =
        .error (.unknownConverter (.text name) names)

theorem NamesEscape.not_reportsMissing (escapes : registry.NamesEscape error) :
    ¬registry.ReportsMissing := by
  rintro ⟨names, _, _, reports⟩
  -- What is not as promised shows for any missing name, so there has to be one.
  obtain ⟨name, missing⟩ := registry.exists_missing
  have failed := reports .linear [] name (Nat.zero_le _) missing
  rw [load_missing (Nat.zero_le _) missing, escapes.unknownConverter] at failed
  have kind := escapes.kind
  rw [Except.error.inj failed] at kind
  cases kind

theorem reportsMissing_iff : registry.ReportsMissing ↔ registry.TextKeys := by
  constructor
  · intro reports
    by_contra mixed
    obtain ⟨error, escapes⟩ := exists_namesEscape_iff.mpr mixed
    exact escapes.not_reportsMissing reports
  · intro texts
    obtain ⟨names, keyed⟩ := textKeys_iff.mp texts
    refine ⟨_, names_of_texts keyed, ?_, fun engine regex name short missing => ?_⟩
    · rw [keyed]
      exact (List.mergeSort_perm names _).map _
    · rw [load_missing short missing, unknownConverter_of_texts keyed, Error.showing_text]

theorem names_error_of_families {a b : Value} (left : a ∈ registry.keys)
    (right : b ∈ registry.keys) (different : a.family ≠ b.family) :
    ∃ types, registry.names = .error (.incomparable types) := by
  obtain ⟨types, unordered⟩ := Value.sorted_error_of_families left right different
  refine ⟨types, ?_⟩
  rw [names, unordered, mapError_error]

theorem names_ok_iff (scalar : ∀ key ∈ registry.keys, key.family ≠ .list ∧ key.family ≠ .tuple) :
    (∃ names, registry.names = .ok names) ↔ registry.keys.length ≤ 1 ∨
      ∃ F, F ≠ .unordered ∧ ∀ key ∈ registry.keys, key.family = F := by
  rw [← Value.sorted_ok_iff scalar]
  exact exists_congr fun _ => mapError_ok_iff

/-- The names of the registry are those of the registrations. Missing names are reported just
when these are texts; otherwise a type error escapes in place of the report, the same for each
missing name. Names of two families cannot even be listed; names without parts can, if they are
at most one, or all numbers, all texts or all bytes. -/
structure ReportsTexts (registry : Registry) (entries : List (Value × Value)) : Prop where
  among : ∀ key ∈ registry.keys, ∃ entry ∈ entries, entry.1 = key
  named : ∀ entry ∈ entries, registry.Named entry.1
  reports : registry.ReportsMissing ↔ ∀ entry ∈ entries, ∃ text, entry.1 = .text text
  escapes : registry.ReportsMissing ↔ ¬∃ error, registry.NamesEscape error
  escaping : ∀ error, registry.NamesEscape error → error.kind = .type ∧
    ∀ engine regex name, regex.length ≤ maxRegexLength →
      registry.contains (.text name) = .ok false →
      (registry.load (.ofTexts [(regex, name)]) engine).result = .error error
  families : ∀ a ∈ registry.keys, ∀ b ∈ registry.keys, a.family ≠ b.family →
    ∃ types, registry.names = .error (.incomparable types)
  scalars : (∀ key ∈ registry.keys, key.family ≠ .list ∧ key.family ≠ .tuple) →
    ((∃ names, registry.names = .ok names) ↔ registry.keys.length ≤ 1 ∨
      ∃ F, F ≠ .unordered ∧ ∀ key ∈ registry.keys, key.family = F)

theorem reportsTexts_enterAll (entries : List (Value × Value)) :
    (Registry.empty.enterAll entries).ReportsTexts entries where
  among key member := by
    rcases mem_keys_enterAll member with none | among
    · cases none
    · exact List.mem_map.mp among
  named entry member := named_enterAll (List.mem_map_of_mem member)
  reports := reportsMissing_iff.trans textKeys_enterAll_iff
  escapes := by rw [reportsMissing_iff, exists_namesEscape_iff, not_not]
  escaping error escapes := by
    refine ⟨escapes.kind, fun engine regex name short missing => ?_⟩
    rw [load_missing short missing, escapes.unknownConverter]
  families _ left _ right different := names_error_of_families left right different
  scalars := names_ok_iff

/-- Whatever calls were made on a builder, the registry reports missing names just when the names
of the calls that succeeded are texts, and lets one type error through for all of them otherwise.
So does a registry that is built in the course of a session, whatever else happens there. -/
theorem missing_reported_unless_names_escape (calls : List (Value × Value)) (session : Session) :
    (ofCalls calls).ReportsTexts (Registry.empty.accepted calls) ∧
    ∀ serial before receiver target after, session.contents serial = .empty →
      (session.after before).Holds receiver (.builder serial) →
      (∀ step ∈ after, step.target? ≠ some target) →
      ∃ registry : Registry,
        registry.ReportsTexts (Session.registeredAll serial session before) ∧
        (session.after (before ++ .make target (.build receiver) :: after)).Holds target
          (.registry registry.converters) := by
  constructor
  · rw [ofCalls, foldl_attempt]
    exact reportsTexts_enterAll _
  · intro serial before receiver target after empty holds elsewhere
    exact ⟨_, reportsTexts_enterAll _, Session.holds_after_build empty holds elsewhere⟩

/-- Registrations under a text and under a number, and two that fail in between: of a converter
that cannot be called, and under a list. -/
def mixedCalls : List (Value × Value) :=
  [(.text [0x73], .mapper (.function .str)), (.none, .none), (.list [], .mapper (.function .str)),
    (.int 1, .mapper (.function .int))]

/-- A builder in which a registration without a name fails for its converter, before one under a
text succeeds. -/
def refusedFirst : List Session.Step :=
  [.make "builder" .builder, .ask (.register "builder" .none .none),
    .ask (.register "builder" (.text [0x73]) (.function .str))]

theorem mixed_names_escape_and_texts_report :
    ((ofCalls mixedCalls).load (.ofTexts [([0x28, 0x29], [0x78])])).result =
      .error (.incomparable ⟨"int", "str"⟩) ∧
    ∃ registry : Registry, registry.ReportsMissing ∧
      (({} : Session).after (refusedFirst ++ [.make "built" (.build "builder")])).Holds "built"
        (.registry registry.converters) := by
  obtain ⟨direct, built⟩ := missing_reported_unless_names_escape mixedCalls {}
  constructor
  · have unordered : Value.sorted (ofCalls mixedCalls).keys = .error ⟨"int", "str"⟩ := by cbv
    have missing : (ofCalls mixedCalls).contains (.text [0x78]) = .ok false := by cbv
    exact (direct.escaping _ (.unsorted unordered)).2 .linear [0x28, 0x29] [0x78] (by decide)
      missing
  · have holds : (({} : Session).after refusedFirst).Holds "builder" (.builder 0) :=
      ⟨_, rfl, rfl⟩
    have texts : Session.registeredAll 0 {} refusedFirst =
        [(.text [0x73], .mapper (.function .str))] := by rfl
    obtain ⟨registry, reports, stored⟩ :=
      built 0 refusedFirst "builder" "built" [] rfl holds (List.forall_mem_nil _)
    refine ⟨registry, reports.reports.mpr ?_, stored⟩
    rw [texts]
    exact List.forall_mem_singleton.mpr ⟨_, rfl⟩

/-- A registration without a name, of a converter that can be called. -/
def nameless : List (Value × Value) :=
  [(.none, .mapper (.function .str))]

/-- The registration succeeds, and no missing name is reported any more. -/
theorem none_name_breaks_report :
    Registry.empty.accepted nameless = nameless ∧
      (ofCalls nameless).names = .ok [.none] ∧
      (ofCalls nameless).contains (.text [0x78]) = .ok false ∧
      ((ofCalls nameless).load (.ofTexts [([0x28, 0x61, 0x29], [0x78])])).result =
        .error (.notJoinable 0 "NoneType") ∧
      ¬∀ calls, (ofCalls calls).ReportsMissing := by
  have missing : (ofCalls nameless).contains (.text [0x78]) = .ok false := by cbv
  have escapes : (ofCalls nameless).NamesEscape (.notJoinable 0 "NoneType") :=
    @NamesEscape.unjoined _ [] .none [] (by cbv) fun _ => Value.noConfusion
  refine ⟨rfl, by cbv, missing, ?_, fun always => escapes.not_reportsMissing (always nameless)⟩
  rw [load_missing (by decide) missing, escapes.unknownConverter]

end Registry

end TokenLexer
