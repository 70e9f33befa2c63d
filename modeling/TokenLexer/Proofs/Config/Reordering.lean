import TokenLexer.Proofs.Config.Reporting

/-!
# The order of fields

The data of a configuration is read by looking fields up, and the unknown ones are sorted before
they are complained about. So where all keys are texts, the order in which the fields come makes
no difference to what is read, nor to the complaint; and neither does the order in which unknown
fields come out of the set they are collected in. And since the rules are read one by one,
neither do the rules behind the first one that is not acceptable.

Main statement: `Config.complaint_ignores_order`.
-/

namespace TokenLexer

/-! ## Entries under texts -/

namespace Value

variable {entries others : List (Value × Value)} {key : Text} {value : Value}

/-- The keys are texts, each of them once. -/
structure TextKeyed (entries : List (Value × Value)) : Prop where
  texts : ∀ entry ∈ entries, ∃ name, entry.1 = .text name
  distinct : (entries.map (·.1)).Nodup

/-- Where no key comes twice, it does not matter which entries stand before the one looked for. -/
theorem has_middle {before after : List (Value × Value)}
    (distinct : (before.map (·.1) ++ .text key :: after.map (·.1)).Nodup) :
    Has (before ++ (.text key, value) :: after) key value := by
  refine ⟨before, after, rfl, fun entry earlier => ?_⟩
  exact (List.nodup_append.mp distinct).2.2 _ (List.mem_map_of_mem earlier) _ List.mem_cons_self

theorem has_iff_mem (distinct : (entries.map (·.1)).Nodup) :
    Has entries key value ↔ (.text key, value) ∈ entries := by
  constructor
  · rintro ⟨before, after, rfl, _⟩
    exact List.mem_append_right _ List.mem_cons_self
  · intro member
    obtain ⟨before, after, rfl⟩ := List.append_of_mem member
    rw [List.map_append, List.map_cons] at distinct
    exact has_middle distinct

/-- Looking up a text finds the same whatever the order of the entries. -/
theorem find?_perm (distinct : (entries.map (·.1)).Nodup) (order : entries.Perm others)
    (key : Text) : find? (.text key) others = find? (.text key) entries := by
  have still : (others.map (·.1)).Nodup := (order.map _).nodup_iff.mp distinct
  refine Option.ext fun value => ?_
  rw [find?_eq_some_iff, find?_eq_some_iff, has_iff_mem distinct, has_iff_mem still,
    order.mem_iff]

end Value

/-! ## Rules -/

namespace Rule

variable {order later : KeyOrder} {entries others : List (Value × Value)} {data other : Value}
  {fields : List Value}

/-- The rule has texts for its keys, if it is a dictionary. -/
def TextKeyed (data : Value) : Prop :=
  ∀ entries, data = .dict entries → Value.TextKeyed entries

/-- The second rule is the first one with its fields in another order. -/
inductive Reordered : Value → Value → Prop
  | same (data : Value) : Reordered data data
  | fields {entries others : List (Value × Value)} (order : entries.Perm others) :
      Reordered (.dict entries) (.dict others)

/-- The names are those of the unknown fields, in code point order and each of them once. -/
structure ListsUnknown (entries : List (Value × Value)) (names : List Text) : Prop where
  increasing : names.Pairwise (· < ·)
  complete : ∀ name, name ∈ names ↔ name ≠ Text.ofString "regex" ∧
    name ≠ Text.ofString "convert" ∧ ∃ value, (.text name, value) ∈ entries

theorem text_of_mem_unknownKeys (keyed : Value.TextKeyed entries) :
    ∀ key ∈ unknownKeys entries, ∃ text, key = .text text := by
  intro key member
  obtain ⟨entry, present, rfl⟩ := List.mem_map.mp (List.mem_of_mem_filter member)
  exact keyed.texts entry present

theorem mem_unknownKeys_iff {name : Text} : .text name ∈ unknownKeys entries ↔
    name ≠ Text.ofString "regex" ∧ name ≠ Text.ofString "convert" ∧
      ∃ value, (.text name, value) ∈ entries := by
  rw [unknownKeys, List.mem_filter, and_comm, ← and_assoc]
  simp [regexKey, convertKey]

theorem checkKeys_perm (keyed : Value.TextKeyed entries) (moved : entries.Perm others) :
    checkKeys others later = checkKeys entries order := by
  have unknown : (unknownKeys entries).Perm (unknownKeys others) := (moved.map _).filter _
  have set := order.perm (unknownKeys entries)
  have texts : ∀ key ∈ order.arrange (unknownKeys entries), ∃ text, key = .text text :=
    fun key member => text_of_mem_unknownKeys keyed key (set.mem_iff.mp member)
  rw [checkKeys, checkKeys,
    Value.sorted_congr texts ((set.trans unknown).trans (later.perm _).symm)]

/-- The order of the fields makes no difference. -/
theorem Reordered.ofValue_eq (reordered : Reordered data other) (keyed : TextKeyed data) :
    ofValue other later = ofValue data order := by
  have moved {entries others} (keyed : Value.TextKeyed entries) (moved : entries.Perm others) :
      ofValue (.dict others) later = ofValue (.dict entries) order := by
    simp only [ofValue, regexOf, convertOf, regexKey, convertKey,
      Value.find?_perm keyed.distinct moved, @checkKeys_perm order later _ _ keyed moved]
  cases reordered with
  | same =>
    cases data with
    | dict entries => exact moved (keyed _ rfl) (.refl _)
    | _ => rfl
  | fields order => exact moved (keyed _ rfl) order

/-- Unknown keys that are texts can always be complained about. -/
theorem not_keysEscape (keyed : Value.TextKeyed entries) :
    ¬∃ kind, KeysEscape order entries kind := by
  have texts := text_of_mem_unknownKeys keyed
  refine not_keysEscape_of_comparable (fun a left b right => ?_) fun key member => ?_
  · obtain ⟨s, rfl⟩ := texts a left
    obtain ⟨t, rfl⟩ := texts b right
    exact Value.comparable_of_family rfl (.inr (.inl rfl))
  · obtain ⟨text, rfl⟩ := texts key member
    simp [Value.isWritable]

theorem listsUnknown_of_checkKeys (keyed : Value.TextKeyed entries)
    (failed : checkKeys entries order = .error (.config (.unknownFields fields))) :
    ∃ names, fields = names.map .text ∧ ListsUnknown entries names := by
  have set := order.perm (unknownKeys entries)
  obtain ⟨names, ordered, increasing, complete⟩ := Value.sorted_distinct
    (fun key member => text_of_mem_unknownKeys keyed key (set.mem_iff.mp member))
    (set.nodup_iff.mpr (keyed.distinct.filter _))
  refine ⟨names, ?_, increasing,
    fun name => (complete name).trans (set.mem_iff.trans mem_unknownKeys_iff)⟩
  rw [checkKeys, ordered] at failed
  split at failed
  · cases failed
  · next unknown _ same =>
    split at failed
    · cases failed
      exact (Except.ok.inj same).symm
    · cases failed
  · cases failed

/-- Only the check of the keys complains about unknown fields. -/
theorem checkKeys_of_unknownFields
    (failed : ofValue (.dict entries) order = .error (.config (.unknownFields fields))) :
    checkKeys entries order = .error (.config (.unknownFields fields)) := by
  rcases bind_error_iff.mp failed with failed | ⟨regex, _, failed⟩
  · unfold regexOf at failed
    split at failed <;> cases failed
  rcases bind_error_iff.mp failed with failed | ⟨convert, _, failed⟩
  · unfold convertOf at failed
    split at failed <;> cases failed
  rcases bind_error_iff.mp failed with failed | ⟨_, _, failed⟩
  · exact failed
  · cases failed

end Rule

/-! ## Configurations -/

namespace Config

variable {order later : KeyOrder} {data other : Value} {entries : List (Value × Value)}
  {items others : List Value} {fields : List Value} {error : Error}

/-- The dictionaries of the data have texts for their keys: the one that holds the list of
rules, and the rules. -/
def TextKeyed (data : Value) : Prop :=
  ∀ entries, data = .dict entries → Value.TextKeyed entries ∧
    ∀ items, (rulesKey, .list items) ∈ entries → ∀ item ∈ items, Rule.TextKeyed item

/-- The second data is the first one with its fields, and those of its rules, in another
order. -/
inductive Reordered : Value → Value → Prop
  | same (data : Value) : Reordered data data
  | fields {entries others : List (Value × Value)} (order : entries.Perm others) :
      Reordered (.dict entries) (.dict others)
  | rules {entries before after : List (Value × Value)} {items others : List Value}
      (order : entries.Perm (before ++ (rulesKey, .list items) :: after))
      (each : List.Forall₂ Rule.Reordered items others) :
      Reordered (.dict entries) (.dict (before ++ (rulesKey, .list others) :: after))

/-- The fields are the unknown ones of a rule, behind rules that are acceptable. -/
inductive BlamesFields : Value → List Value → Prop
  | mk {entries rule : List (Value × Value)} {before after : List Value} {names : List Text}
      (list : Value.Has entries (Text.ofString "rules") (.list (before ++ .dict rule :: after)))
      (passed : ∀ other ∈ before, ∃ texts, Rule.Describes other texts)
      (unknown : Rule.ListsUnknown rule names) :
      BlamesFields (.dict entries) (names.map .text)

theorem mapM_ofValue_eq (keyed : ∀ item ∈ items, Rule.TextKeyed item)
    (each : List.Forall₂ Rule.Reordered items others) :
    (others.mapM fun item => Rule.ofValue item later) =
      items.mapM fun item => Rule.ofValue item order := by
  have same : List.Forall₂
      (fun item other => Rule.ofValue item order = Rule.ofValue other later) items others :=
    ((List.forall₂_and_left _ _).mpr ⟨keyed, each⟩).imp
      fun _ _ both => (both.2.ofValue_eq both.1).symm
  exact (mapM_congr_forall₂ same).symm

theorem ofValue_perm {others : List (Value × Value)} (keyed : TextKeyed (.dict entries))
    (moved : entries.Perm others) :
    ofValue (.dict others) later = ofValue (.dict entries) order := by
  obtain ⟨texts, rules⟩ := keyed _ rfl
  simp only [ofValue, rulesKey, Value.find?_perm texts.distinct moved]
  cases found : Value.find? (.text (Text.ofString "rules")) entries with
  | none => rfl
  | some value =>
    cases value with
    | list items =>
      have listed : (rulesKey, .list items) ∈ entries :=
        (Value.has_iff_mem texts.distinct).mp (Value.find?_eq_some_iff.mp found)
      have same : List.Forall₂ Rule.Reordered items items :=
        List.forall₂_same.mpr fun item _ => .same item
      simp only [@mapM_ofValue_eq order later _ _ (rules items listed) same]
    | _ => rfl

/-- The order of the fields makes no difference, nor does that of the fields of the rules. -/
theorem Reordered.ofValue_eq (reordered : Reordered data other) (keyed : TextKeyed data) :
    ofValue other later = ofValue data order := by
  cases reordered with
  | same =>
    cases data with
    | dict entries => exact ofValue_perm keyed (.refl _)
    | _ => rfl
  | fields moved => exact ofValue_perm keyed moved
  | @rules entries before after items others moved each =>
    obtain ⟨texts, rules⟩ := keyed _ rfl
    have member : (rulesKey, .list items) ∈ entries := moved.mem_iff.mpr (by simp)
    have distinct := (moved.map (·.1)).nodup_iff.mp texts.distinct
    rw [List.map_append, List.map_cons] at distinct
    have list : Value.Has (before ++ (rulesKey, .list others) :: after) (Text.ofString "rules")
        (.list others) := Value.has_middle distinct
    rw [ofValue_list list, ofValue_list ((Value.has_iff_mem texts.distinct).mpr member),
      mapM_ofValue_eq (rules items member) each]

/-- The rules of such data have texts for their keys. -/
theorem TextKeyed.rule (keyed : TextKeyed (.dict entries)) {before after : List Value}
    {item : Value}
    (list : Value.Has entries (Text.ofString "rules") (.list (before ++ item :: after))) :
    Rule.TextKeyed item := by
  obtain ⟨texts, rules⟩ := keyed _ rfl
  exact rules _ ((Value.has_iff_mem texts.distinct).mp list) _
    (List.mem_append_right _ List.mem_cons_self)

/-- Where all keys are texts, reading gives a configuration or a complaint. -/
theorem TextKeyed.kind (keyed : TextKeyed data) (failed : ofValue data order = .error error) :
    error.kind = .configParse := by
  refine (ofValue_error failed).resolve_right ?_
  rintro ⟨list, _, _, _, escapes⟩
  exact Rule.not_keysEscape (keyed.rule list _ rfl) ⟨_, escapes⟩

theorem TextKeyed.blamesFields (keyed : TextKeyed data)
    (failed : ofValue data order = .error (.config (.unknownFields fields))) :
    BlamesFields data fields := by
  rcases ofValue_error_cases failed with
    ⟨entries, before, item, after, rfl, list, passed, failed⟩ | ⟨fault, same, other⟩
  · cases item with
    | dict rule =>
      have checked := Rule.checkKeys_of_unknownFields failed
      obtain ⟨names, rfl, unknown⟩ :=
        Rule.listsUnknown_of_checkKeys (keyed.rule list _ rfl) checked
      exact .mk list passed unknown
    | _ => cases failed
  · cases same
    exact absurd rfl (other fields)

/-- Where all keys are texts, what is read from the data, or the complaint about it, does not
depend on the order of its fields and of those of its rules, nor on the one in which unknown
fields come out of a set; and a complaint about unknown fields lists those of the first rule that
is not acceptable in code point order, each of them once. The rules behind this one make no
difference, whatever they are. -/
theorem complaint_ignores_order (order : KeyOrder) :
    (∀ data, TextKeyed data →
      (∀ other later, Reordered data other → ofValue other later = ofValue data order) ∧
      (∀ error, ofValue data order = .error error → error.kind = .configParse) ∧
      ∀ fields, ofValue data order = .error (.config (.unknownFields fields)) →
        BlamesFields data fields) ∧
    ∀ good bad rest, (∀ item ∈ good, ∃ rule, Rule.Describes item rule) →
      (¬∃ rule, Rule.Describes bad rule) →
      ∃ error, Rule.ofValue bad order = .error error ∧
        ofValue (.dict [(rulesKey, .list (good ++ bad :: rest))]) order = .error error ∧
        ofValue (.dict [(rulesKey, .list [bad])]) order = .error error := by
  refine ⟨fun data keyed => ⟨fun other later reordered => reordered.ofValue_eq keyed,
    fun error => keyed.kind, fun fields => keyed.blamesFields⟩, ?_⟩
  intro good bad rest passed refused
  have list (items : List Value) : Value.Has [(rulesKey, .list items)] (Text.ofString "rules")
      (.list items) := Value.has_cons_self.mpr rfl
  cases failed : Rule.ofValue bad order with
  | ok rule =>
    obtain ⟨texts, describes, _⟩ := Rule.ofValue_ok_iff.mp failed
    exact absurd ⟨texts, describes⟩ refused
  | error error =>
    exact ⟨error, rfl, ofValue_of_fault (list _) passed failed,
      ofValue_of_fault (list ([] ++ [bad])) nofun failed⟩

/-- A rule with two unknown fields, which are not in order. -/
def misspelled : List (Value × Value) :=
  [(.text [0x7a], .none), (Rule.regexKey, .text [0x28]), (.text [0x62], .none)]

theorem misspelled_keyed : TextKeyed (.dict [(rulesKey, .list [.dict misspelled])]) := by
  rintro _ ⟨⟩
  refine ⟨⟨List.forall_mem_singleton.mpr ⟨_, rfl⟩, List.nodup_singleton _⟩, ?_⟩
  intro items listed item member
  cases List.mem_singleton.mp listed
  obtain rfl := List.mem_singleton.mp member
  rintro _ ⟨⟩
  have different : [0x7a] ≠ Text.ofString "regex" ∧ Text.ofString "regex" ≠ [0x62] := by decide
  exact ⟨by simp [misspelled, Rule.regexKey], by simpa [misspelled, Rule.regexKey] using different⟩

theorem misspelled_complaint :
    let complaint := Error.config (.unknownFields [.text [0x62], .text [0x7a]])
    ofValue (.dict [(rulesKey, .list [.dict misspelled])]) = .error complaint ∧
      ofValue (.dict [(rulesKey, .list [.dict misspelled.reverse])]) = .error complaint ∧
      ofValue (.dict [(rulesKey, .list
        [Rule.data ([0x28], [0x78]), .dict misspelled.reverse, .int 1])]) = .error complaint := by
  intro complaint
  obtain ⟨inOrder, behind⟩ := complaint_ignores_order .entered
  have failed : Rule.ofValue (.dict misspelled.reverse) = .error complaint := by cbv
  have reordered : Reordered (.dict [(rulesKey, .list [.dict misspelled])])
      (.dict [(rulesKey, .list [.dict misspelled.reverse])]) :=
    @Reordered.rules _ [] [] _ _ (.refl _) (.cons (.fields (List.reverse_perm _).symm) .nil)
  have refused : ¬∃ rule, Rule.Describes (.dict misspelled.reverse) rule := by
    rintro ⟨rule, describes⟩
    have accepted := (@Rule.ofValue_ok_iff .entered _ _).mpr ⟨rule, describes, rfl⟩
    rw [failed] at accepted
    cases accepted
  obtain ⟨error, same, later, alone⟩ := behind [Rule.data ([0x28], [0x78])] _ [.int 1]
    (List.forall_mem_singleton.mpr ⟨_, (Rule.Encodes.full _ _).describes⟩) refused
  obtain rfl : complaint = error := Except.error.inj (failed.symm.trans same)
  exact ⟨((inOrder _ misspelled_keyed).1 _ _ reordered).symm.trans alone, alone, later⟩

end Config

end TokenLexer
