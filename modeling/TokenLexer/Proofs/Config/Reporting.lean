import Mathlib
import TokenLexer.Proofs.Config.Grammar
import TokenLexer.Value.Hashing

/-!
# Complaints about configurations

What is wrong with the data of a configuration is complained about, except that a complaint
about unknown keys cannot always be made: it lists the keys in order, and so fails when the
keys have no order or hold a number too long to be written. These are the only errors that
take the place of a complaint, and they do so just when no complaint comes before. All of this
holds in whatever order the unknown keys come out of the set they are collected in.

Main statement: `Config.complains_unless_keys_escape`.
-/

namespace TokenLexer

/-! ## Values that can be written -/

theorem Value.areWritable_iff {items : List Value} :
    Value.areWritable items = true ↔ ∀ item ∈ items, item.isWritable = true := by
  induction items with
  | nil => simp [Value.areWritable]
  | cons item rest ih => rw [Value.areWritable, Bool.and_eq_true, ih, List.forall_mem_cons]

/-- Data: no part of it is a function or an object of the library, and a dictionary has
each of its keys once. -/
inductive Value.Plain : Value → Prop
  | none : Plain .none
  | bool (b : Bool) : Plain (.bool b)
  | int (i : Int) : Plain (.int i)
  | float (x : Binary64) : Plain (.float x)
  | text (t : Text) : Plain (.text t)
  | bytes (b : List Nat) : Plain (.bytes b)
  | list {items : List Value} (each : ∀ item ∈ items, Plain item) : Plain (.list items)
  | tuple {items : List Value} (each : ∀ item ∈ items, Plain item) : Plain (.tuple items)
  | dict {entries : List (Value × Value)}
      (keys : ∀ entry ∈ entries, Plain entry.1)
      (hashable : ∀ entry ∈ entries, entry.1.unhashable? = Option.none)
      (different : (entries.map (·.1)).Pairwise fun a b => Value.sameKey a b = false)
      (values : ∀ entry ∈ entries, Plain entry.2) : Plain (.dict entries)

/-! ## Rules -/

namespace Rule

variable {order : KeyOrder} {entries : List (Value × Value)} {data : Value} {error : Error}
  {kind : ErrorKind}

/-- The unknown keys cannot be complained about, and an error of this kind comes out instead. -/
inductive KeysEscape (order : KeyOrder) (entries : List (Value × Value)) : ErrorKind → Prop
  | unsorted
      (unordered : ¬∃ keys, Value.sorted (order.arrange (unknownKeys entries)) = .ok keys) :
      KeysEscape order entries .type
  | unwritten {key : Value}
      (ordered : ∃ keys, Value.sorted (order.arrange (unknownKeys entries)) = .ok keys)
      (member : key ∈ unknownKeys entries) (long : key.isWritable = false) :
      KeysEscape order entries .value

theorem exists_keysEscape_iff : (∃ kind, KeysEscape order entries kind) ↔
    (¬∃ keys, Value.sorted (order.arrange (unknownKeys entries)) = .ok keys) ∨
      ∃ key ∈ unknownKeys entries, key.isWritable = false := by
  constructor
  · rintro ⟨_, unordered | ⟨_, member, long⟩⟩
    · exact .inl unordered
    · exact .inr ⟨_, member, long⟩
  · intro reason
    by_cases ordered : ∃ keys, Value.sorted (order.arrange (unknownKeys entries)) = .ok keys
    · obtain ⟨key, member, long⟩ := reason.resolve_left (not_not_intro ordered)
      exact ⟨_, .unwritten ordered member long⟩
    · exact ⟨_, .unsorted ordered⟩

/-- Keys of two families cannot be complained about. -/
theorem keysEscape_of_families {a b : Value} (left : a ∈ unknownKeys entries)
    (right : b ∈ unknownKeys entries) (different : a.family ≠ b.family) :
    KeysEscape order entries .type := by
  have set := order.perm (unknownKeys entries)
  obtain ⟨types, unordered⟩ :=
    Value.sorted_error_of_families (set.mem_iff.mpr left) (set.mem_iff.mpr right) different
  refine .unsorted ?_
  rintro ⟨keys, ordered⟩
  rw [unordered] at ordered
  cases ordered

/-- Keys that all have an order, and can be written, can be complained about. -/
theorem not_keysEscape_of_comparable (comparable : Value.PairwiseComparable (unknownKeys entries))
    (written : ∀ key ∈ unknownKeys entries, key.isWritable = true) :
    ¬∃ kind, KeysEscape order entries kind := by
  rw [exists_keysEscape_iff]
  rintro (unordered | ⟨key, member, long⟩)
  · exact unordered (Value.sorted_of_comparable (comparable.of_perm (order.perm _).symm))
  · rw [written key member] at long
    cases long

/-- Keys without parts can be complained about just when they are of one family and all of
them can be written. -/
theorem exists_keysEscape_iff_of_scalar
    (scalar : ∀ key ∈ unknownKeys entries, key.family ≠ .list ∧ key.family ≠ .tuple) :
    (∃ kind, KeysEscape order entries kind) ↔
      (2 ≤ (unknownKeys entries).length ∧
        ¬∃ F, F ≠ .unordered ∧ ∀ key ∈ unknownKeys entries, key.family = F) ∨
      ∃ key ∈ unknownKeys entries, key.isWritable = false := by
  have set := order.perm (unknownKeys entries)
  rw [exists_keysEscape_iff,
    Value.sorted_ok_iff fun key member => scalar key (set.mem_iff.mp member), set.length_eq,
    not_or, Nat.not_le]
  simp only [set.mem_iff]
  rfl

/-- The fields of the rule are as they should be, and its unknown keys cannot be complained
about. -/
inductive Escapes (order : KeyOrder) : Value → ErrorKind → Prop
  | mk {entries : List (Value × Value)} {regex : Text} {kind : ErrorKind}
      (expression : Value.Has entries (Text.ofString "regex") (.text regex))
      (name : (∃ convert, Value.Has entries (Text.ofString "convert") (.text convert)) ∨
        Value.Lacks entries (Text.ofString "convert"))
      (keys : KeysEscape order entries kind) :
      Escapes order (.dict entries) kind

theorem regexOf_error (failed : regexOf entries = .error error) : error.kind = .configParse := by
  unfold regexOf at failed
  split at failed
  · cases failed
  · cases failed
    rfl
  · cases failed
    rfl

theorem convertOf_error (failed : convertOf entries = .error error) :
    error.kind = .configParse := by
  unfold convertOf at failed
  split at failed
  · cases failed
  · cases failed
    rfl
  · cases failed

/-- Whether the keys can be written does not depend on their order. -/
theorem isWritable_keys {keys unknown : List Value} (same : keys.Perm unknown) :
    (Value.list keys).isWritable = true ↔ ∀ key ∈ unknown, key.isWritable = true := by
  rw [Value.isWritable, Value.areWritable_iff]
  exact forall_congr' fun key => imp_congr_left same.mem_iff

theorem KeysEscape.checkKeys (escapes : KeysEscape order entries kind) :
    ∃ error, checkKeys entries order = .error error ∧ error.kind = kind ∧
      kind ≠ .configParse := by
  unfold Rule.checkKeys
  cases escapes with
  | unsorted unordered =>
    cases found : Value.sorted (order.arrange (unknownKeys entries)) with
    | ok keys => exact (unordered ⟨keys, found⟩).elim
    | error types => exact ⟨_, rfl, rfl, nofun⟩
  | @unwritten key ordered member long =>
    obtain ⟨keys, ordered⟩ := ordered
    have same := (Value.sorted_perm ordered).trans (order.perm _)
    have unwritable : ¬(Value.list keys).isWritable = true := fun writable => by
      rw [(isWritable_keys same).mp writable key member] at long
      cases long
    rw [ordered]
    cases keys with
    | nil => cases same.mem_iff.mpr member
    | cons first rest => exact ⟨_, if_neg unwritable, rfl, nofun⟩

theorem checkKeys_error (failed : checkKeys entries order = .error error) :
    error.kind = .configParse ∨ KeysEscape order entries error.kind := by
  unfold checkKeys at failed
  split at failed
  · cases failed
  · next keys _ ordered =>
    split at failed
    · cases failed
      exact .inl rfl
    · next unwritable =>
      cases failed
      rw [isWritable_keys ((Value.sorted_perm ordered).trans (order.perm _))] at unwritable
      obtain ⟨key, unwritable⟩ := not_forall.mp unwritable
      obtain ⟨member, long⟩ := Classical.not_imp.mp unwritable
      exact .inr (.unwritten ⟨_, ordered⟩ member (Bool.eq_false_iff.mpr long))
  · next types unordered =>
    cases failed
    refine .inr (.unsorted ?_)
    rintro ⟨keys, ordered⟩
    rw [unordered] at ordered
    cases ordered

theorem convertOf_ok_of (name : (∃ convert, Value.Has entries (Text.ofString "convert")
    (.text convert)) ∨ Value.Lacks entries (Text.ofString "convert")) :
    ∃ convert, convertOf entries = .ok convert := by
  rcases name with ⟨convert, named⟩ | unnamed
  · exact ⟨convert, convertOf_ok_iff.mpr (.inl named)⟩
  · exact ⟨_, convertOf_ok_iff.mpr (.inr ⟨unnamed, rfl⟩)⟩

theorem ofValue_error (failed : ofValue data order = .error error) :
    error.kind = .configParse ∨ Escapes order data error.kind := by
  cases data with
  | dict entries =>
    rcases bind_error_iff.mp failed with failed | ⟨regex, expression, failed⟩
    · exact .inl (regexOf_error failed)
    rcases bind_error_iff.mp failed with failed | ⟨convert, name, failed⟩
    · exact .inl (convertOf_error failed)
    rcases bind_error_iff.mp failed with failed | ⟨_, _, failed⟩
    · refine (checkKeys_error failed).imp_right fun escapes => ?_
      refine .mk (regexOf_ok_iff.mp expression) ?_ escapes
      exact (convertOf_ok_iff.mp name).imp (fun named => ⟨convert, named⟩) (·.1)
    · cases failed
  | _ =>
    cases failed
    exact .inl rfl

theorem Escapes.ofValue (escapes : Escapes order data kind) :
    ∃ error, ofValue data order = .error error ∧ error.kind = kind ∧ kind ≠ .configParse := by
  obtain ⟨expression, name, keys⟩ := escapes
  obtain ⟨convert, name⟩ := convertOf_ok_of name
  obtain ⟨error, failed, kind⟩ := keys.checkKeys
  refine ⟨error, ?_, kind⟩
  simp only [Rule.ofValue, regexOf_ok_iff.mpr expression, name, failed, ok_bind, error_bind]

end Rule

namespace Config

variable {order : KeyOrder} {data : Value} {error : Error} {kind : ErrorKind}
  {entries : List (Value × Value)} {items before after : List Value} {item : Value}

theorem ofValue_list (list : Value.Has entries (Text.ofString "rules") (.list items)) :
    ofValue (.dict entries) order =
      (items.mapM fun item => Rule.ofValue item order).map Config.mk := by
  simp only [ofValue, rulesKey, Value.find?_eq_some_iff.mpr list]
  cases items.mapM fun item => Rule.ofValue item order <;> rfl

/-- The first rule that is not acceptable decides the error. -/
theorem ofValue_of_fault
    (list : Value.Has entries (Text.ofString "rules") (.list (before ++ item :: after)))
    (passed : ∀ other ∈ before, ∃ rule, Rule.Describes other rule)
    (failed : Rule.ofValue item order = .error error) :
    ofValue (.dict entries) order = .error error := by
  rw [ofValue_list list, map_error_iff, mapM_error_iff]
  refine ⟨before, item, after, rfl, fun other member => ?_, failed⟩
  obtain ⟨rule, describes⟩ := passed other member
  exact ⟨_, Rule.ofValue_ok_iff.mpr ⟨rule, describes, rfl⟩⟩

/-- An error comes from the first rule that is not acceptable, if there is a list of rules at
all. -/
theorem ofValue_error_cases (failed : ofValue data order = .error error) :
    (∃ entries before item after, data = .dict entries ∧
      Value.Has entries (Text.ofString "rules") (.list (before ++ item :: after)) ∧
      (∀ other ∈ before, ∃ rule, Rule.Describes other rule) ∧
      Rule.ofValue item order = .error error) ∨
    ∃ fault, error = .config fault ∧ ∀ fields, fault ≠ .unknownFields fields := by
  cases data with
  | dict entries =>
    simp only [ofValue] at failed
    split at failed
    · cases failed
      exact .inr ⟨_, rfl, fun _ same => by cases same⟩
    · cases failed
      exact .inr ⟨_, rfl, fun _ same => by cases same⟩
    · next items found =>
      have list := Value.find?_eq_some_iff.mp found
      obtain failed | ⟨_, _, failed⟩ := bind_error_iff.mp failed
      · obtain ⟨before, item, after, rfl, passed, failed⟩ := mapM_error_iff.mp failed
        refine .inl ⟨entries, before, item, after, rfl, list, fun other member => ?_, failed⟩
        obtain ⟨result, parsed⟩ := passed other member
        obtain ⟨rule, describes, _⟩ := Rule.ofValue_ok_iff.mp parsed
        exact ⟨rule, describes⟩
      · cases failed
    · cases failed
      exact .inr ⟨_, rfl, fun _ same => by cases same⟩
  | _ =>
    cases failed
    exact .inr ⟨_, rfl, fun _ same => by cases same⟩

/-- The error comes from the first rule that is not as it should be. -/
inductive Escapes (order : KeyOrder) : Value → ErrorKind → Prop
  | mk {entries : List (Value × Value)} {before after : List Value} {item : Value}
      {kind : ErrorKind}
      (list : Value.Has entries (Text.ofString "rules") (.list (before ++ item :: after)))
      (passed : ∀ other ∈ before, ∃ rule, Rule.Describes other rule)
      (escapes : Rule.Escapes order item kind) :
      Escapes order (.dict entries) kind

/-- Reading gives a configuration or a complaint. -/
def KeepsPromise (order : KeyOrder) (data : Value) : Prop :=
  (∃ config, ofValue data order = .ok config) ∨
    ∃ error, ofValue data order = .error error ∧ error.kind = .configParse

theorem ofValue_error (failed : ofValue data order = .error error) :
    error.kind = .configParse ∨ Escapes order data error.kind := by
  rcases ofValue_error_cases failed with
    ⟨entries, before, item, after, rfl, list, passed, failed⟩ | ⟨fault, rfl, _⟩
  · exact (Rule.ofValue_error failed).imp_right (.mk list passed)
  · exact .inl rfl

theorem Escapes.ofValue (escapes : Escapes order data kind) :
    ∃ error, ofValue data order = .error error ∧ error.kind = kind ∧ kind ≠ .configParse := by
  obtain ⟨list, passed, escapes⟩ := escapes
  obtain ⟨error, failed, kind⟩ := escapes.ofValue
  exact ⟨error, ofValue_of_fault list passed failed, kind⟩

theorem escapes_iff : Escapes order data kind ↔
    ∃ error, ofValue data order = .error error ∧ error.kind = kind ∧ kind ≠ .configParse := by
  refine ⟨Escapes.ofValue, ?_⟩
  rintro ⟨error, failed, rfl, other⟩
  exact (ofValue_error failed).resolve_left other

theorem keepsPromise_iff : KeepsPromise order data ↔ ¬∃ kind, Escapes order data kind := by
  constructor
  · rintro kept ⟨kind, escapes⟩
    obtain ⟨error, failed, rfl, other⟩ := escapes.ofValue
    rcases kept with ⟨config, parsed⟩ | ⟨complaint, complained, kind⟩
    · rw [failed] at parsed
      cases parsed
    · rw [failed] at complained
      cases complained
      exact other kind
  · intro never
    cases parsed : ofValue data order with
    | ok config => exact .inl ⟨config, parsed⟩
    | error error =>
      have kind := (ofValue_error parsed).resolve_right fun escapes => never ⟨_, escapes⟩
      exact .inr ⟨error, parsed, kind⟩

/-- Reading gives a configuration or a complaint, except where the complaint about the
unknown keys of a rule fails in their place: with a type error when they cannot be sorted, with
a value error when one of them cannot be written. Keys of two families, such as numbers and
texts, can never be sorted; keys that all have an order always can. For keys without parts the
order in which they come out of the set makes no difference. -/
theorem complains_unless_keys_escape (order : KeyOrder) (data : Value) :
    (KeepsPromise order data ↔ ¬∃ kind, Escapes order data kind) ∧
    (∀ kind, Escapes order data kind ↔
      ∃ error, ofValue data order = .error error ∧ error.kind = kind ∧ kind ≠ .configParse) ∧
    (∀ entries a b, a ∈ Rule.unknownKeys entries → b ∈ Rule.unknownKeys entries →
      a.family ≠ b.family → Rule.KeysEscape order entries .type) ∧
    (∀ entries, Value.PairwiseComparable (Rule.unknownKeys entries) →
      (∀ key ∈ Rule.unknownKeys entries, key.isWritable = true) →
      ¬∃ kind, Rule.KeysEscape order entries kind) ∧
    ∀ entries,
      (∀ key ∈ Rule.unknownKeys entries, key.family ≠ .list ∧ key.family ≠ .tuple) →
      ((∃ kind, Rule.KeysEscape order entries kind) ↔
        (2 ≤ (Rule.unknownKeys entries).length ∧
          ¬∃ F, F ≠ .unordered ∧ ∀ key ∈ Rule.unknownKeys entries, key.family = F) ∨
        ∃ key ∈ Rule.unknownKeys entries, key.isWritable = false) :=
  ⟨keepsPromise_iff, fun _ => escapes_iff,
    fun _ _ _ left right different => Rule.keysEscape_of_families left right different,
    fun _ comparable written => Rule.not_keysEscape_of_comparable comparable written,
    fun _ scalar => Rule.exists_keysEscape_iff_of_scalar scalar⟩

/-- A rule with the number as its one unknown key. -/
def numbered (i : Int) : Value :=
  .dict [(Rule.regexKey, .text [0x28, 0x29]), (.int i, .none)]

theorem numbered_escapes {i : Int} (long : (Value.int i).isWritable = false) (order : KeyOrder) :
    Rule.Escapes order (numbered i) .value := by
  have different : Value.text (Text.ofString "regex") ≠ .text (Text.ofString "convert") := by
    rw [Ne, Value.text.injEq]
    decide
  have unknown : Rule.unknownKeys [(Rule.regexKey, .text [0x28, 0x29]), (.int i, .none)] =
      [.int i] := by
    simp [Rule.unknownKeys, Rule.regexKey, Rule.convertKey, Value.sameKey, Value.same,
      Value.samePlain, Value.whole?]
  have unnamed : Value.Lacks [(Rule.regexKey, .text [0x28, 0x29]), (.int i, .none)]
      (Text.ofString "convert") := by
    simpa [Value.Lacks, Rule.regexKey] using different
  have one : (order.arrange [.int i]).length ≤ 1 := (order.perm _).length_eq.le
  refine .mk (Value.has_cons_self.mpr rfl) (.inr unnamed) (.unwritten ?_ ?_ long)
  · rw [unknown]
    exact Value.sorted_of_short one
  · exact unknown ▸ List.mem_singleton_self _

/-- The least number with too many digits is not complained about. -/
theorem long_key_escapes :
    (Value.int (.ofNat (Nat.pow 10 Number.digitLimit))).isWritable = false ∧
      ∀ order, ∃ error,
        ofValue (.dict [(rulesKey, .list [numbered (.ofNat (Nat.pow 10 Number.digitLimit))])])
          order = .error error ∧ error.kind = .value := by
  have limit (n : Nat) : ¬(Int.ofNat n).natAbs < n := Nat.lt_irrefl n
  have long : (Value.int (.ofNat (Nat.pow 10 Number.digitLimit))).isWritable = false := by
    rw [Value.isWritable]
    exact decide_eq_false (limit (Nat.pow 10 Number.digitLimit))
  refine ⟨long, fun order => ?_⟩
  obtain ⟨_, exactly, _⟩ := complains_unless_keys_escape order
    (.dict [(rulesKey, .list [numbered (.ofNat (Nat.pow 10 Number.digitLimit))])])
  obtain ⟨error, failed, kind, _⟩ := (exactly .value).mp
    (@Escapes.mk _ _ [] [] _ _ (Value.has_cons_self.mpr rfl) (List.forall_mem_nil _)
      (numbered_escapes long order))
  exact ⟨error, failed, kind⟩

/-- A rule of which one key is a number and another one a tuple. -/
def mixedRule : List (Value × Value) :=
  [(.int 1, .int 0), (.tuple [.int 2], .int 0), (Rule.regexKey, .text [0x28, 0x61, 0x29])]

def mixedKeys : Value :=
  .dict [(rulesKey, .list [.dict mixedRule])]

theorem mixedRule_escapes (order : KeyOrder) : Rule.Escapes order (.dict mixedRule) .type := by
  have unknown : Rule.unknownKeys mixedRule = [.int 1, .tuple [.int 2]] := by cbv
  have different : Text.ofString "regex" ≠ Text.ofString "convert" := by decide
  have families : (Value.int 1).family ≠ (Value.tuple [.int 2]).family := by decide
  have expression :
      Value.Has mixedRule (Text.ofString "regex") (.text [0x28, 0x61, 0x29]) :=
    ⟨[(.int 1, .int 0), (.tuple [.int 2], .int 0)], [], rfl, by simp⟩
  have unnamed : Value.Lacks mixedRule (Text.ofString "convert") := by
    simpa [Value.Lacks, mixedRule, Rule.regexKey] using different
  refine .mk expression (.inr unnamed) (Rule.keysEscape_of_families ?_ ?_ families)
  · simp [unknown]
  · simp [unknown]

/-- The promise is broken for plain data, in whatever order the keys come. -/
theorem mixed_keys_break_promise : mixedKeys.Plain ∧ ∀ order, ¬KeepsPromise order mixedKeys := by
  refine ⟨?_, fun order kept => ?_⟩
  · have rule : Value.Plain (.dict mixedRule) := by
      refine .dict ?_ ?_ ?_ ?_
      · simpa [mixedRule] using ⟨.int 1, .tuple (List.forall_mem_singleton.mpr (.int 2)), .text _⟩
      · simp [mixedRule, Value.unhashable?, Value.unhashableItem?, Rule.regexKey]
      · simp [mixedRule, Value.sameKey, Value.same, Value.samePlain, Value.whole?, Rule.regexKey]
      · simpa [mixedRule] using ⟨.int 0, .text _⟩
    refine .dict ?_ ?_ ?_ ?_
    · exact List.forall_mem_singleton.mpr (.text _)
    · exact List.forall_mem_singleton.mpr rfl
    · exact List.pairwise_singleton _ _
    · exact List.forall_mem_singleton.mpr (.list (List.forall_mem_singleton.mpr rule))
  · exact keepsPromise_iff.mp kept ⟨.type, @Escapes.mk _ _ [] [] _ _ (Value.has_cons_self.mpr rfl)
      (List.forall_mem_nil _) (mixedRule_escapes order)⟩

end Config

end TokenLexer
