import Mathlib.Data.List.Nodup
import Mathlib.Data.List.Perm.Basic
import TokenLexer.Proofs.Sorting.OrderedMerging
import TokenLexer.Value.Order

/-!
# Sorting values

Sorting gives back the values that it was given. It fails as soon as two of them belong
to different families, such as numbers and texts, since it never leaves two families
uncompared; it succeeds when every two of them have an order. Texts are always put into code
point order, and then it does not show in which order they came.

Main statements: `sorted_perm`, `family_of_sorted`, `sorted_texts`, `sorted_congr`,
`sorted_of_comparable` and `sorted_ok_iff`.
-/

namespace TokenLexer

/-! ## Texts in order -/

namespace Text

variable {names others : List Text}

/-- Code point order is the order of the lists of code points, compared from the first on. -/
theorem atMost_eq_false_iff {a b : Text} : atMost b a = false ↔ a < b := by
  induction b generalizing a with
  | nil => simp [atMost]
  | cons d others ih =>
    cases a with
    | nil => simp [atMost]
    | cons c rest =>
      rw [List.cons_lt_cons_iff, ← ih]
      simp only [atMost, Bool.or_eq_false_iff, Bool.and_eq_false_iff, decide_eq_false_iff_not,
        beq_eq_false_iff_ne]
      grind

theorem ordered_mergeSort (names : List Text) :
    (names.mergeSort atMost).Pairwise fun earlier later => atMost earlier later = true := by
  have total (a b : Text) : (atMost a b || atMost b a) = true := by
    simpa using atMost_total a b
  exact List.pairwise_mergeSort (fun a b c => @atMost_trans a b c) total names

/-- Sorting makes names rise weakly, and distinct names that do rise strictly. -/
theorem increasing_mergeSort (distinct : names.Nodup) :
    (names.mergeSort atMost).Pairwise (· < ·) := by
  have different := (List.mergeSort_perm names atMost).nodup_iff.mpr distinct
  refine ((ordered_mergeSort names).and different).imp fun {earlier later} both => ?_
  rw [← atMost_eq_false_iff]
  cases back : atMost later earlier with
  | false => rfl
  | true => exact absurd (atMost_antisymm both.1 back) both.2

/-- In which order the names came does not show after sorting. -/
theorem mergeSort_congr (same : names.Perm others) :
    names.mergeSort atMost = others.mergeSort atMost := by
  have sorted : (names.mergeSort atMost).Perm (others.mergeSort atMost) :=
    (List.mergeSort_perm _ _).trans (same.trans (List.mergeSort_perm _ _).symm)
  exact sorted.eq_of_pairwise (fun _ _ _ _ => atMost_antisymm) (ordered_mergeSort names)
    (ordered_mergeSort others)

end Text

namespace Value

/-- Values of which the order is asked: those of different families have none. -/
inductive Family
  | number
  | text
  | bytes
  | list
  | tuple
  | unordered
  deriving DecidableEq, Repr

def family : Value → Family
  | .bool _ | .int _ | .float _ => .number
  | .text _ => .text
  | .bytes _ => .bytes
  | .list _ => .list
  | .tuple _ => .tuple
  | _ => .unordered

/-- The two values have an order. -/
def Comparable (a b : Value) : Prop :=
  ∃ before, less a b = .ok before

variable {a b : Value} {values others result : List Value}

theorem family_of_isNumber (number : isNumber a = true) : a.family = .number := by
  cases a with
  | bool | int | float => rfl
  | _ => cases number

theorem isNumber_of_family (number : a.family = .number) : isNumber a = true := by
  cases a with
  | bool | int | float => rfl
  | _ => cases number

theorem Comparable.family (comparable : Comparable a b) :
    a.family = b.family ∧ a.family ≠ .unordered := by
  obtain ⟨before, compared⟩ := comparable
  unfold less at compared
  split at compared
  · split at compared
    · exact ⟨rfl, nofun⟩
    · cases compared
  · split at compared
    · exact ⟨rfl, nofun⟩
    · cases compared
  · split at compared
    · exact ⟨rfl, nofun⟩
    · exact ⟨rfl, nofun⟩
    · split at compared
      · next numbers =>
        obtain ⟨first, second⟩ := Bool.and_eq_true_iff.mp numbers
        rw [family_of_isNumber first, family_of_isNumber second]
        exact ⟨rfl, nofun⟩
      · cases compared

/-- Only values of one family can be compared, so sorting needs all values to be of one. -/
theorem respects_family : Sorting.Respects less family :=
  fun _ _ before compared => (Comparable.family ⟨before, compared⟩).1

/-- Numbers have an order, and so have texts and bytes. -/
theorem comparable_of_family (same : a.family = b.family)
    (scalar : a.family = .number ∨ a.family = .text ∨ a.family = .bytes) : Comparable a b := by
  rcases scalar with number | text | bytes
  · have numbers : (isNumber a && isNumber b) = true := by
      rw [isNumber_of_family number, isNumber_of_family (same.symm.trans number)]
      rfl
    refine ⟨lessNumber a b, ?_⟩
    cases a with
    | bool | int | float => simp [less, numbers]
    | _ => cases number
  · rw [text] at same
    cases a with
    | text s =>
      cases b with
      | text t => exact ⟨_, rfl⟩
      | _ => cases same
    | _ => cases text
  · rw [bytes] at same
    cases a with
    | bytes s =>
      cases b with
      | bytes t => exact ⟨_, rfl⟩
      | _ => cases same
    | _ => cases bytes

/-! ## Sorting -/

/-- Sorting gives back the values that it was given. -/
theorem sorted_perm (done : sorted values = .ok result) : result.Perm values :=
  ((Sorting.sort_among respects_family values).ensures done).1

theorem sorted_nil : sorted [] = .ok [] :=
  Sorting.sort_of_short (Nat.zero_le 1)

/-- Two or more values that were sorted are of one family. -/
theorem family_of_sorted (done : sorted values = .ok result) (many : 2 ≤ values.length) :
    ∃ F, F ≠ .unordered ∧ ∀ value ∈ values, value.family = F := by
  match values with
  | first :: second :: rest =>
    obtain ⟨same, alike⟩ := (Sorting.sort_among respects_family _).ensures done
    have compared : Comparable second first := Sorting.sort_compares done
    refine ⟨first.family, compared.family.1 ▸ compared.family.2, fun value member => ?_⟩
    exact ((alike (List.cons_ne_nil _ _)).of_perm same.symm).same value member first
      List.mem_cons_self

/-- Values of two families cannot be sorted. -/
theorem sorted_error_of_families (left : a ∈ values) (right : b ∈ values)
    (different : a.family ≠ b.family) : ∃ types, sorted values = .error types := by
  cases ordered : sorted values with
  | error types => exact ⟨types, rfl⟩
  | ok result =>
    -- What was sorted would be of one family, as soon as there are two values.
    have many : 2 ≤ values.length := by
      rcases values with _ | ⟨first, _ | ⟨second, rest⟩⟩
      · cases left
      · rw [List.mem_singleton] at left right
        exact (different (by rw [left, right])).elim
      · simp
    obtain ⟨F, _, family⟩ := family_of_sorted ordered many
    exact (different ((family a left).trans (family b right).symm)).elim

/-! ## Sorting texts -/

def text? : Value → Option Text
  | .text t => some t
  | _ => Option.none

theorem exists_texts (texts : ∀ value ∈ values, ∃ text, value = .text text) :
    ∃ names : List Text, names.map .text = values := by
  induction values with
  | nil => exact ⟨[], rfl⟩
  | cons value rest ih =>
    obtain ⟨⟨text, rfl⟩, others⟩ := List.forall_mem_cons.mp texts
    obtain ⟨names, rfl⟩ := ih others
    exact ⟨text :: names, rfl⟩

theorem less_text_eq_false_iff {s t : Text} :
    less (.text t) (.text s) = .ok false ↔ s.atMost t = true := by
  rw [show less (.text t) (.text s) = .ok !s.atMost t from rfl, Except.ok.injEq,
    Bool.not_eq_false']

/-- Code point order is an order. -/
theorem ordered_texts (texts : List Text) : Sorting.Ordered less (texts.map .text) where
  answers := List.forall_mem_map.mpr fun _ _ => List.forall_mem_map.mpr fun _ _ => ⟨_, rfl⟩
  asymm := List.forall_mem_map.mpr fun s _ => List.forall_mem_map.mpr fun t _ before => by
    rw [less_text_eq_false_iff]
    refine (Text.atMost_total s t).resolve_right fun behind => ?_
    rw [less_text_eq_false_iff.mpr behind] at before
    cases before
  trans := List.forall_mem_map.mpr fun s _ => List.forall_mem_map.mpr fun t _ =>
    List.forall_mem_map.mpr fun u _ => by
      simp only [less_text_eq_false_iff]
      exact Text.atMost_trans

/-- Sorting texts always succeeds and gives them in order. -/
theorem sorted_texts (texts : List Text) :
    sorted (texts.map .text) = .ok ((texts.mergeSort Text.atMost).map .text) := by
  obtain ⟨result, done, same, inOrder⟩ := Sorting.sort_ordered (ordered_texts texts)
  have result_texts : ∀ value ∈ result, ∃ text, value = .text text := fun value member => by
    obtain ⟨text, _, rfl⟩ := List.mem_map.mp (same.mem_iff.mp member)
    exact ⟨text, rfl⟩
  obtain ⟨names, rfl⟩ := exists_texts result_texts
  have injective : Function.Injective Value.text := fun _ _ => Value.text.inj
  have names_perm := (List.map_perm_map_iff injective).mp same
  have names_ordered : names.Pairwise fun earlier later => earlier.atMost later = true :=
    (List.pairwise_map.mp inOrder).imp less_text_eq_false_iff.mp
  have unique : names = texts.mergeSort Text.atMost :=
    (names_perm.trans (List.mergeSort_perm _ _).symm).eq_of_pairwise
      (fun _ _ _ _ => Text.atMost_antisymm) names_ordered (Text.ordered_mergeSort texts)
  rw [sorted, done, unique]

/-- In which order texts came does not show after sorting. -/
theorem sorted_congr (texts : ∀ value ∈ values, ∃ text, value = .text text)
    (same : values.Perm others) : sorted values = sorted others := by
  have others_texts : ∀ value ∈ others, ∃ text, value = .text text :=
    fun value member => texts value (same.mem_iff.mpr member)
  obtain ⟨names, rfl⟩ := exists_texts texts
  obtain ⟨last, rfl⟩ := exists_texts others_texts
  have injective : Function.Injective Value.text := fun _ _ => Value.text.inj
  rw [sorted_texts, sorted_texts,
    Text.mergeSort_congr ((List.map_perm_map_iff injective).mp same)]

/-- Sorting puts different texts into code point order, each of them once. -/
theorem sorted_distinct (texts : ∀ value ∈ values, ∃ text, value = .text text)
    (distinct : values.Nodup) :
    ∃ names : List Text, sorted values = .ok (names.map .text) ∧ names.Pairwise (· < ·) ∧
      ∀ name, name ∈ names ↔ .text name ∈ values := by
  obtain ⟨names, rfl⟩ := exists_texts texts
  refine ⟨_, sorted_texts names, Text.increasing_mergeSort ?_, fun name => by simp⟩
  exact List.Nodup.of_map _ distinct

/-! ## When sorting succeeds -/

/-- Every two of the values have an order. -/
def PairwiseComparable (values : List Value) : Prop :=
  ∀ a ∈ values, ∀ b ∈ values, Comparable a b

theorem PairwiseComparable.of_perm (comparable : PairwiseComparable values)
    (same : values.Perm result) : PairwiseComparable result :=
  fun a left b right => comparable a (same.mem_iff.mpr left) b (same.mem_iff.mpr right)

theorem sorted_of_comparable (comparable : PairwiseComparable values) :
    ∃ result, sorted values = .ok result :=
  (Sorting.sort_among respects_family values).answers comparable

theorem sorted_of_short (few : values.length ≤ 1) : ∃ result, sorted values = .ok result :=
  ⟨values, Sorting.sort_of_short few⟩

/-- Values without parts can be sorted just when they are at most one, or all numbers, all
texts or all bytes. -/
theorem sorted_ok_iff
    (scalar : ∀ value ∈ values, value.family ≠ .list ∧ value.family ≠ .tuple) :
    (∃ result, sorted values = .ok result) ↔
      values.length ≤ 1 ∨ ∃ F, F ≠ .unordered ∧ ∀ value ∈ values, value.family = F := by
  constructor
  · rintro ⟨result, done⟩
    by_cases many : 2 ≤ values.length
    · exact .inr (family_of_sorted done many)
    · exact .inl (by omega)
  · rintro (few | ⟨F, ordered, family⟩)
    · exact sorted_of_short few
    · refine sorted_of_comparable fun a left b right => ?_
      refine comparable_of_family ((family a left).trans (family b right).symm) ?_
      have parts := scalar a left
      rw [family a left] at parts ⊢
      cases F with
      | number => exact .inl rfl
      | text => exact .inr (.inl rfl)
      | bytes => exact .inr (.inr rfl)
      | list => exact (parts.1 rfl).elim
      | tuple => exact (parts.2 rfl).elim
      | unordered => exact (ordered rfl).elim

end Value

end TokenLexer
