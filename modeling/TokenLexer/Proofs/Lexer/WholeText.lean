import Mathlib
import TokenLexer.Proofs.Lexer.Expression
import TokenLexer.Proofs.Regex.Capturing
import TokenLexer.Proofs.Regex.Numbering

/-!
# Matching whole texts

A lexer that was made of an expression answers what the parses of the whole text say: a
token is what group 1 captured last in one of them, there is no token where there is no
parse, and there is one where group 1 takes part in every parse.

Main statement: `token_decided_by_parses`.
-/

namespace TokenLexer

variable {regex text : Text} {tree : Regex}

/-- A parse of the whole text that leaves this capture. -/
def Regex.ParsesWhole (tree : Regex) (text : Text) (capture : Regex.Capture) : Prop :=
  tree.Matches text 0 text.length none capture

/-- A stretch of a text is what stands between its front and its back. -/
theorem Text.slice_between {start stop : Nat} (ordered : start ≤ stop)
    (within : stop ≤ text.length) :
    ∃ front back, text = front ++ text.slice start stop ++ back ∧ front.length = start ∧
      start + (text.slice start stop).length = stop := by
  refine ⟨text.take start, text.drop stop, ?_, ?_, ?_⟩
  · have shorter : text.take start = (text.take stop).take start := by
      rw [List.take_take, Nat.min_eq_left ordered]
    rw [slice, shorter, List.take_append_drop, List.take_append_drop]
  · exact List.length_take_of_le (Nat.le_trans ordered within)
  · rw [slice, List.length_drop, List.length_take_of_le within]
    omega

/-- What a parse of the whole text captures is a part of the text. -/
theorem Regex.ParsesWhole.part {span : Nat × Nat} (parsed : tree.ParsesWhole text (some span)) :
    ∃ front part back, text = front ++ part ++ back ∧ text.slice span.1 span.2 = part ∧
      span = (front.length, front.length + part.length) := by
  rcases parsed.captures with none | ⟨start, stop, some, _, ordered, within⟩
  · cases none
  · cases some
    obtain ⟨front, back, whole, before, behind⟩ := Text.slice_between ordered within
    refine ⟨front, _, back, whole, rfl, ?_⟩
    rw [before, behind]

namespace Lexer

/-- The lexer of an expression is its tree, with one group, number 1. -/
theorem ofRegex_linear {lexer : Lexer Value}
    (made : (ofRegex (.text regex)).result = .ok lexer) :
    ∃ tree, Regex.parse (regex.map Char.ofNat) = .ok tree ∧ tree.Bounded ∧ tree.groups = [1] ∧
      lexer = .pattern (.linear regex tree) := by
  obtain ⟨leaf, compiled, counted, rfl⟩ := ofRegex_ok_iff.mp made
  obtain ⟨tree, parsed, rfl⟩ := Pattern.compile_ok compiled
  obtain ⟨bounded, numbered⟩ := Regex.parse_sound parsed
  have one : tree.groupCount = 1 := Int.ofNat_inj.mp (Value.int.inj counted)
  rw [one] at numbered
  exact ⟨tree, parsed, bounded, numbered, rfl⟩

/-- The answer of the lexer of a tree is the stretch that the search captured. -/
theorem tryMatch_linear (encodable : text.isWellFormed = true) (outside : Outside)
    (past : List Event) :
    (pattern (.linear regex tree)).tryMatch (.text text) outside past =
      .ok ((tree.captureIn text).bind fun capture =>
        capture.map fun span => .text (text.slice span.1 span.2)) := by
  show Pattern.token? (.linear regex tree) text = _
  rw [Pattern.token?, Pattern.fullMatch, if_pos encodable]
  rcases tree.captureIn text with _ | _ | span
  · rfl
  · rfl
  · rfl

/-- What the lexer of an expression answers for a text that can be encoded. Its tree has
one group, number 1. A token is a part of the text that group 1 captured last in some
parse of the whole text; without a parse there is no token, and with one there is a
token if group 1 takes part in every parse. -/
theorem token_decided_by_parses {lexer : Lexer Value}
    (made : (ofRegex (.text regex)).result = .ok lexer) (encodable : text.isWellFormed = true) :
    ∃ tree, Regex.parse (regex.map Char.ofNat) = .ok tree ∧ tree.groups = [1] ∧
      ∀ outside past, ∃ answer, lexer.tryMatch (.text text) outside past = .ok answer ∧
        (∀ token, answer = some token → ∃ front part back, token = .text part ∧
          text = front ++ part ++ back ∧
          tree.ParsesWhole text (some (front.length, front.length + part.length))) ∧
        ((¬∃ capture, tree.ParsesWhole text capture) → answer = none) ∧
        ((∃ capture, tree.ParsesWhole text capture) → ¬tree.ParsesWhole text none →
          ∃ token, answer = some token) := by
  obtain ⟨tree, parsed, bounded, numbered, rfl⟩ := ofRegex_linear made
  have distinct : tree.groups.Nodup := by
    rw [numbered]
    simp
  refine ⟨tree, parsed, numbered, fun outside past => ⟨_, tryMatch_linear encodable _ _, ?_⟩⟩
  cases found : tree.captureIn text with
  | none =>
    refine ⟨nofun, fun _ => rfl, ?_⟩
    rintro ⟨capture, parse⟩
    obtain ⟨other, missed⟩ := Regex.captureIn_complete bounded distinct parse
    rw [found] at missed
    cases missed
  | some capture =>
    have parse : tree.ParsesWhole text capture := Regex.captureIn_sound bounded distinct found
    cases capture with
    | none => exact ⟨nofun, fun _ => rfl, fun _ always => absurd parse always⟩
    | some span =>
      refine ⟨?_, fun never => absurd ⟨_, parse⟩ never, fun _ _ => ⟨_, rfl⟩⟩
      rintro token ⟨⟩
      obtain ⟨front, part, back, whole, same, rfl⟩ := parse.part
      exact ⟨front, part, back, congrArg Value.text same, whole, parse⟩

/-- The tree of `(a|)*b`, whose only group stands in a loop and may match nothing. -/
def nullableRounds : Regex :=
  .seq (.repeated (.group 1 (.either (.chars (.single 0x61)) .empty)) 0 none true)
    (.chars (.single 0x62))

theorem token_decided_by_nullable_rounds :
    let lexer : Lexer Value := .pattern (.linear [0x28, 0x61, 0x7c, 0x29, 0x2a, 0x62] nullableRounds)
    (ofRegex (.text [0x28, 0x61, 0x7c, 0x29, 0x2a, 0x62])).result = .ok lexer ∧
      Text.isWellFormed [0x61, 0x61, 0x62] = true ∧ nullableRounds.groups = [1] ∧
      lexer.tryMatch (.text [0x61, 0x61, 0x62]) = .ok (some (.text [0x61])) ∧
      ∃ front back, front ++ [0x61] ++ back = [0x61, 0x61, 0x62] ∧
        nullableRounds.ParsesWhole [0x61, 0x61, 0x62]
          (some (front.length, front.length + 1)) := by
  intro lexer
  have made : (ofRegex (.text [0x28, 0x61, 0x7c, 0x29, 0x2a, 0x62])).result = .ok lexer := by
    cbv
  have read : Regex.parse ([0x28, 0x61, 0x7c, 0x29, 0x2a, 0x62].map Char.ofNat) =
      .ok nullableRounds := by
    cbv
  obtain ⟨tree, parsed, numbered, decided⟩ :=
    @token_decided_by_parses _ [0x61, 0x61, 0x62] _ made rfl
  obtain rfl := Except.ok.inj (read.symm.trans parsed)
  obtain ⟨answer, answered, sound, _, _⟩ := decided .nothing []
  have found : lexer.tryMatch (.text [0x61, 0x61, 0x62]) = .ok (some (.text [0x61])) := by
    cbv
  obtain rfl := Except.ok.inj (answered.symm.trans found)
  obtain ⟨front, part, back, same, whole, parse⟩ := sound _ rfl
  obtain rfl := Value.text.inj same
  exact ⟨made, rfl, numbered, found, front, back, whole.symm, parse⟩

end Lexer

end TokenLexer
