import TokenLexer.Proofs.Value.Sorting
import TokenLexer.Registry

/-!
# Registered names

A registry that was built by registering converters under texts: its names are
distinct texts, and each of its converters can be called. So a look-up that finds
nothing means that the name is not registered, and the names can be listed in
order.

Main statements: `Built.sound`, the invariant; `unknownConverter_eq`, the
complaint about a missing name lists the registered ones.
-/

namespace TokenLexer

/-! ## Tables with texts for keys -/

namespace Value

variable {α : Type} {entries : List (Value × α)} {names : List Text}

/-- A key comes behind the others, unless it is there already. -/
theorem keys_insert (key : Value) (value : α) (entries : List (Value × α)) :
    (insert key value entries).map (·.1) =
      if (entries.map (·.1)).any (·.sameKey key) then entries.map (·.1)
      else entries.map (·.1) ++ [key] := by
  induction entries with
  | nil => rfl
  | cons entry rest ih =>
    rw [insert, List.map_cons, List.any_cons]
    split
    · next same => rw [same, Bool.true_or, if_pos rfl, List.map_cons]
    · next different =>
      rw [Bool.eq_false_iff.mpr different, Bool.false_or, List.map_cons, ih]
      split <;> rfl

theorem keys_insert_text (keyed : entries.map (·.1) = names.map .text) (name : Text) (value : α) :
    (insert (.text name) value entries).map (·.1) =
      (if name ∈ names then names else names ++ [name]).map .text := by
  have present : (names.map text).any (·.sameKey (.text name)) = decide (name ∈ names) := by
    simp [List.any_map, Function.comp_def, List.any_beq']
  rw [keys_insert, keyed, present]
  by_cases known : name ∈ names <;> simp [known]

theorem find?_text_isSome (keyed : entries.map (·.1) = names.map .text) (name : Text) :
    (find? (.text name) entries).isSome = decide (name ∈ names) := by
  rw [Bool.eq_iff_iff, Option.isSome_iff_ne_none, Ne, find?_text_eq_none_iff, keyed]
  simp

/-- A key that is no text is not found among texts. -/
theorem find?_not_text {key : Value} (keyed : entries.map (·.1) = names.map .text)
    (other : ∀ text, key ≠ .text text) : find? key entries = Option.none := by
  induction entries generalizing names with
  | nil => rfl
  | cons entry rest ih =>
    obtain ⟨first, value⟩ := entry
    obtain ⟨name, others, rfl, rfl, tail⟩ := List.map_eq_cons_iff.mp keyed.symm
    rw [find?, if_neg (mt text_sameKey_iff.mp (other name))]
    exact ih tail.symm

theorem mem_of_find? {key : Value} {value : α} (found : find? key entries = some value) :
    ∃ other, (other, value) ∈ entries := by
  induction entries with
  | nil => cases found
  | cons entry rest ih =>
    obtain ⟨other, old⟩ := entry
    unfold find? at found
    split at found
    · cases found
      exact ⟨other, List.mem_cons_self⟩
    · obtain ⟨later, member⟩ := ih found
      exact ⟨later, List.mem_cons_of_mem _ member⟩

theorem mem_insert {key : Value} {value : α} {entry : Value × α}
    (member : entry ∈ insert key value entries) : entry ∈ entries ∨ entry.2 = value := by
  induction entries with
  | nil =>
    obtain rfl := List.mem_singleton.mp member
    exact Or.inr rfl
  | cons head rest ih =>
    obtain ⟨other, old⟩ := head
    unfold insert at member
    split at member
    · rcases List.mem_cons.mp member with rfl | later
      · exact Or.inr rfl
      · exact Or.inl (List.mem_cons_of_mem _ later)
    · rcases List.mem_cons.mp member with rfl | later
      · exact Or.inl List.mem_cons_self
      · exact (ih later).imp_left (List.mem_cons_of_mem _)

end Value

namespace Registry

/-! ## Registries that can be built -/

/-- The registry was built by registering converters under texts. -/
inductive Built : Registry → Prop
  | empty : Built .empty
  | register {registry next : Registry} {name : Text} {converter : Value} (built : Built registry)
      (done : registry.register (.text name) converter = .ok next) : Built next

/-- A registry with one converter. -/
def oneConverter : Registry :=
  ⟨[(.text [0x73], .function .str)]⟩

theorem oneConverter_built : oneConverter.Built :=
  @Built.register .empty _ [0x73] (.mapper (.function .str)) .empty rfl

/-- The texts among the names. -/
def textNames (registry : Registry) : List Text :=
  registry.keys.filterMap Value.text?

/-- The names are distinct texts, and the converters can be called. -/
structure Sound (registry : Registry) : Prop where
  keyed : registry.converters.map (·.1) = registry.textNames.map .text
  distinct : registry.textNames.Nodup
  callable : ∀ entry ∈ registry.converters, (Value.mapper entry.2).isCallable = true

/-- The registry with the converter under the name, in the place of an older one. -/
def enter (registry : Registry) (name converter : Value) : Registry :=
  ⟨Value.insert name converter.toMapper registry.converters⟩

/-- A converter that cannot be called is refused, whatever the name. -/
theorem register_refused {registry : Registry} {name converter : Value}
    (refused : converter.isCallable = false) :
    registry.register name converter =
      .error (.showing name (.converterNotCallable name converter.typeName)) := by
  rw [register, refused]
  rfl

theorem register_ok_iff {registry next : Registry} {name converter : Value} :
    registry.register name converter = .ok next ↔
      converter.isCallable = true ∧ name.unhashable? = none ∧
        next = registry.enter name converter := by
  cases callable : converter.isCallable with
  | false =>
    rw [register_refused callable]
    simp
  | true =>
    rw [register, checkKey, callable]
    cases name.unhashable? with
    | none => exact ⟨fun done => ⟨rfl, rfl, (Except.ok.inj done).symm⟩, fun made => made.2.2 ▸ rfl⟩
    | some found => simp

theorem textNames_eq {registry : Registry} {names : List Text}
    (keyed : registry.converters.map (·.1) = names.map .text) : registry.textNames = names := by
  have all (texts : List Text) : (texts.map Value.text).filterMap Value.text? = texts := by
    induction texts with
    | nil => rfl
    | cons text rest ih => simp [Value.text?, ih]
  rw [textNames, keys, keyed, all]

theorem callable_toMapper {converter : Value} (callable : converter.isCallable = true) :
    (Value.mapper converter.toMapper).isCallable = true := by
  cases converter with
  | mapper m => exact callable
  | _ => cases callable

theorem Sound.keyed_enter {registry : Registry} (sound : registry.Sound) (name : Text)
    (converter : Value) : (registry.enter (.text name) converter).converters.map (·.1) =
      (if name ∈ registry.textNames then registry.textNames
        else registry.textNames ++ [name]).map .text :=
  Value.keys_insert_text sound.keyed name converter.toMapper

/-- Registering a converter under a text keeps the invariant. -/
theorem Sound.register {registry next : Registry} {name : Text} {converter : Value}
    (sound : registry.Sound) (done : registry.register (.text name) converter = .ok next) :
    next.Sound := by
  obtain ⟨callable, _, rfl⟩ := register_ok_iff.mp done
  have keyed := sound.keyed_enter name converter
  have names := textNames_eq keyed
  refine ⟨by rw [names]; exact keyed, ?_, fun entry member => ?_⟩
  · rw [names]
    split
    · exact sound.distinct
    · next absent =>
      refine List.nodup_append.mpr ⟨sound.distinct, by simp, fun old present new member => ?_⟩
      rw [List.mem_singleton.mp member]
      exact fun same => absurd (same ▸ present) absent
  · rcases Value.mem_insert member with old | new
    · exact sound.callable entry old
    · rw [new]
      exact callable_toMapper callable

theorem Built.sound {registry : Registry} (built : registry.Built) : registry.Sound := by
  induction built with
  | empty => exact ⟨rfl, List.nodup_nil, by simp [Registry.empty]⟩
  | register _ done ih => exact ih.register done

theorem Built.registerAll {registry next : Registry} {functions : List Function}
    (built : registry.Built)
    (done : functions.foldlM (fun registry f => registry.register (.text (Text.ofString f.name))
      (.mapper (.function f))) registry = .ok next) : next.Built := by
  induction functions generalizing registry with
  | nil =>
    cases done
    exact built
  | cons f rest ih =>
    rw [List.foldlM_cons] at done
    cases first : registry.register (.text (Text.ofString f.name)) (.mapper (.function f)) with
    | error error => simp [first, bind, Except.bind] at done
    | ok middle => exact ih (.register built first) (by simpa [first, bind, Except.bind] using done)

theorem Built.registerCore {registry next : Registry} (built : registry.Built)
    (done : registry.registerCore = .ok next) : next.Built :=
  built.registerAll done

/-! ## Looking names up -/

theorem contains_eq_false_iff {registry : Registry} {name : Value} :
    registry.contains name = .ok false ↔ registry.find? name = .ok none := by
  rw [contains]
  rcases registry.find? name with error | found | found <;> simp [pure, Except.pure]

theorem find?_text (registry : Registry) (name : Text) :
    registry.find? (.text name) = .ok (Value.find? (.text name) registry.converters) := rfl

theorem Sound.contains_text {registry : Registry} (sound : registry.Sound) (name : Text) :
    registry.contains (.text name) = .ok (decide (name ∈ registry.textNames)) := by
  rw [← Value.find?_text_isSome sound.keyed name]
  rfl

theorem Sound.mem_textNames_iff {registry : Registry} {name : Text} (sound : registry.Sound) :
    name ∈ registry.textNames ↔ registry.contains (.text name) = .ok true := by
  rw [sound.contains_text]
  simp

theorem find?_mem {registry : Registry} {name : Value} {converter : Mapper Value}
    (found : registry.find? name = .ok (some converter)) :
    ∃ other, (other, converter) ∈ registry.converters := by
  obtain ⟨_, _, looked⟩ := bind_ok_iff.mp found
  exact Value.mem_of_find? (Except.ok.inj looked)

theorem Sound.find?_callable {registry : Registry} {name : Value} {converter : Mapper Value}
    (sound : registry.Sound) (found : registry.find? name = .ok (some converter)) :
    (Value.mapper converter).isCallable = true := by
  obtain ⟨other, member⟩ := find?_mem found
  exact sound.callable _ member

/-! ## Listing the names -/

/-- The list holds the registered names in code point order, each of them once. -/
structure Listing (registry : Registry) (names : List Text) : Prop where
  increasing : names.Pairwise fun earlier later => Text.atMost later earlier = false
  complete : ∀ name, name ∈ names ↔ registry.contains (.text name) = .ok true

theorem Sound.listing_sorted {registry : Registry} (sound : registry.Sound) :
    registry.Listing (registry.textNames.mergeSort Text.atMost) := by
  have increasing := Text.increasing_mergeSort sound.distinct
  exact ⟨increasing.imp Text.atMost_eq_false_iff.mpr,
    fun name => List.mem_mergeSort.trans sound.mem_textNames_iff⟩

/-- There is only one way to list the names. -/
theorem Listing.unique {registry : Registry} {names others : List Text}
    (listing : registry.Listing names) (other : registry.Listing others) : names = others := by
  have nodup {list : List Text} (listing : registry.Listing list) : list.Nodup :=
    listing.increasing.imp fun before same => by simp [same, Text.atMost_refl] at before
  have same := (List.perm_ext_iff_of_nodup (nodup listing) (nodup other)).mpr fun name =>
    (listing.complete name).trans (other.complete name).symm
  refine same.eq_of_pairwise (fun a b _ _ before after => ?_) listing.increasing other.increasing
  rcases Text.atMost_total a b with ordered | ordered
  · exact absurd ordered (by simp [after])
  · exact absurd ordered (by simp [before])

theorem firstUnjoinable_texts (names : List Text) (index : Nat) :
    firstUnjoinable index (names.map .text) = none := by
  induction names generalizing index with
  | nil => rfl
  | cons name rest ih => exact ih (index + 1)

theorem names_of_texts {registry : Registry} {names : List Text}
    (keyed : registry.keys = names.map .text) :
    registry.names = .ok ((names.mergeSort Text.atMost).map .text) := by
  rw [Registry.names, keyed, Value.sorted_texts]
  rfl

theorem unknownConverter_of_texts {registry : Registry} {names : List Text}
    (keyed : registry.keys = names.map .text) (name : Value) :
    registry.unknownConverter name =
      .showing name (.unknownConverter name ((names.mergeSort Text.atMost).map .text)) := by
  unfold unknownConverter
  rw [names_of_texts keyed]
  simp only [firstUnjoinable_texts]

theorem Sound.names {registry : Registry} (sound : registry.Sound) :
    registry.names = .ok ((registry.textNames.mergeSort Text.atMost).map .text) :=
  names_of_texts sound.keyed

/-- The complaint about a missing name lists the registered names in order. -/
theorem Sound.unknownConverter_eq {registry : Registry} {names : List Text}
    (sound : registry.Sound) (listing : registry.Listing names) (name : Value) :
    registry.unknownConverter name =
      .showing name (.unknownConverter name (names.map .text)) := by
  obtain rfl := listing.unique sound.listing_sorted
  exact unknownConverter_of_texts sound.keyed name

end Registry

end TokenLexer
