import TraceOverhead.Proofs.Dialogue.Yields
import TraceOverhead.Random.Draw
/-!
What draws can give. A number of a range can be any number of the range and no other, an element of
a list any of its elements; what a seed gives is one of the things that can be drawn.
-/

namespace TraceOverhead.Random

open Dialogue

theorem yields_perform (draw : Draw) (answer : Fin (draw.span + 1)) :
    Yields draw.perform answer := yields_ask_iff.2 ⟨answer, yields_done_iff.2 rfl⟩

theorem yields_narrow_iff {low high number : Nat} (ordered : low ≤ high) :
    Yields (narrow low high) number ↔ low ≤ number ∧ number ≤ high := by
  rw [narrow, yields_map_iff]
  constructor
  · rintro ⟨distance, _, rfl⟩
    have bound : distance.val < high - low + 1 := distance.isLt
    omega
  · rintro ⟨above, below⟩
    have bound : number - low < high - low + 1 := by omega
    exact ⟨⟨number - low, bound⟩, yields_perform _ _, by simp; omega⟩

theorem yields_wide_iff {low high number : Int} (ordered : low ≤ high) :
    Yields (wide low high) number ↔ low ≤ number ∧ number ≤ high := by
  rw [wide, yields_map_iff]
  constructor
  · rintro ⟨distance, _, rfl⟩
    have bound : distance.val < (high - low).toNat + 1 := distance.isLt
    omega
  · rintro ⟨above, below⟩
    have bound : (number - low).toNat < (high - low).toNat + 1 := by omega
    exact ⟨⟨(number - low).toNat, bound⟩, yields_perform _ _, by simp; omega⟩

theorem yields_pick_iff {α : Type} {first item : α} {others : List α} :
    Yields (pick first others) item ↔ item ∈ first :: others := by
  rw [pick, yields_bind_iff, List.mem_iff_get]
  constructor
  · rintro ⟨index, _, taken⟩
    exact ⟨index, (yields_done_iff.1 taken).symm⟩
  · rintro ⟨index, rfl⟩
    exact ⟨index, yields_perform _ _, yields_done_iff.2 rfl⟩

theorem yields_fraction_iff {number : Float} :
    Yields fraction number ↔
      ∃ multiple < Nat.pow 2 53, number = Number.ofQuotient false multiple (Nat.pow 2 53) := by
  rw [fraction, yields_map_iff]
  constructor
  · rintro ⟨multiple, _, rfl⟩
    have bound : multiple.val < Nat.pow 2 53 - 1 + 1 := multiple.isLt
    exact ⟨multiple.val, by simpa using bound, rfl⟩
  · rintro ⟨multiple, below, rfl⟩
    have bound : multiple < Nat.pow 2 53 - 1 + 1 := by simpa using below
    exact ⟨⟨multiple, bound⟩, yields_perform _ _, rfl⟩

theorem yields_run_seeded {α : Type} (seed : UInt64) (drawing : Drawing α) :
    Yields drawing (runSeeded seed drawing) := by
  rw [runSeeded]
  exact yields_interpret answerFromStream (Stream.ofSeed seed) drawing

/-- Draws that are laid down, and the smallest numbers once there are none left. -/
def answerInTurn (draw : Draw) : List Nat → draws.Answer draw × List Nat
  | [] => (⟨0, Nat.succ_pos draw.span⟩, [])
  | number :: numbers =>
    (⟨min number draw.span, Nat.lt_succ_of_le (Nat.min_le_right number draw.span)⟩, numbers)

end TraceOverhead.Random
