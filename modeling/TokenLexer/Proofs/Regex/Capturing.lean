import TokenLexer.Proofs.Regex.Crossing
import TokenLexer.Proofs.Regex.Searching

/-!
# Captures of the whole text

The search for a match of the whole text finds one just when a parse of the whole text
exists, and what it captures is what some such parse captures.

Main statements: `captureIn_sound` and `captureIn_complete`.
-/

namespace TokenLexer

namespace Regex

variable {r : Regex} {text : Text} {capture : Capture}

theorem start_inText (text : Text) : (Thread.start text).InText text :=
  ⟨0, 0, 0, none, Nat.zero_le _, rfl⟩

/-- A search begins with no pair looked at. -/
theorem searching_start (r : Regex) (text : Text) :
    Searching r.program text [.start text] (.none (r.program.size * (text.length + 1))) where
  inText thread present := by
    rw [List.mem_singleton.mp present]
    exact start_inText text
  sooner {_ address i _ _} inside within marked := by
    have bounded : i * r.program.size + address < r.program.size * (text.length + 1) := by
      calc
        i * r.program.size + address < i * r.program.size + r.program.size :=
          Nat.add_lt_add_left inside _
        _ = (i + 1) * r.program.size := (Nat.succ_mul i _).symm
        _ ≤ (text.length + 1) * r.program.size :=
          Nat.mul_le_mul_right _ (Nat.succ_le_succ within)
        _ = r.program.size * (text.length + 1) := Nat.mul_comm _ _
    rw [Visited.has_none bounded] at marked
    cases marked

/-- What is captured, some parse of the whole text captures. -/
theorem captureIn_sound (bounded : r.Bounded) (distinct : r.groups.Nodup)
    (found : r.captureIn text = some capture) : Matches text r 0 text.length none capture := by
  obtain ⟨thread, present, accepts⟩ := search_sound found
  rw [List.mem_singleton.mp present] at accepts
  exact (accepts_start_iff bounded distinct).mp accepts

/-- A parse of the whole text is not missed. -/
theorem captureIn_complete (bounded : r.Bounded) (distinct : r.groups.Nodup)
    (parsed : Matches text r 0 text.length none capture) :
    ∃ other, r.captureIn text = some other := by
  obtain ⟨n, accepts⟩ := (accepts_start_iff bounded distinct).mpr parsed
  refine search_complete (searching_start r text) ?_
    ⟨_, List.mem_singleton_self _, n, capture, accepts⟩
  simp [Visited.none]

end Regex

end TokenLexer
