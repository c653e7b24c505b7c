import Mathlib
import TraceOverhead.Number.Double
/-!
Doubles that counts are divided by. Main statement: the double nearest to a count is not zero unless
the count is.
-/

namespace TraceOverhead.Number

open Float.Model (Format)
open Float.Model.UnpackedFloat

/-- All doubles but one are made of their own bits alone; a NaN may have been made of others. -/
theorem bits_of_number {bits : UInt64} {number : Float} (real : number ≠ Float.nan)
    (made : Float.ofBits bits = number) : bits = number.toBits := by
  have packed := @pack_unpack Format.binary64 bits.toBitVec (by decide)
  have kept : number.toBits.toBitVec =
      if @isNaNBits Format.binary64 bits.toBitVec then packedNaN Format.binary64
      else bits.toBitVec := by
    rw [← made]
    exact packed
  split at kept
  · exact absurd (Float.toBits_inj.1 (UInt64.toBitVec_inj.1 kept)) real
  · exact (UInt64.toBitVec_inj.1 kept).symm

/-- Two doubles are zero for comparison, and each is made of bits of its own. -/
theorem zero_bits_of_equals_zero {bits : UInt64} (equal : (Float.ofBits bits == 0.0) = true) :
    bits = 0 ∨ bits = 0x8000000000000000 := by
  obtain ⟨_, _, same⟩ := Float.beq_iff_ne_nan_and_eq.1 equal
  rcases same with positive | ⟨positive, _⟩ | ⟨negative, _⟩
  · exact .inl (bits_of_number (by decide) positive)
  · exact .inl (bits_of_number (by decide) positive)
  · exact .inr (bits_of_number (by decide) negative)

theorem neg_one_le_leading_exponent (count : Nat) : -1 ≤ leadingExponent count 1 := by
  have one : Nat.log2 1 = 0 := by decide
  simp only [leadingExponent, one]
  split <;> omega

theorem nearest_bits_bounds {count : Nat} (positive : 0 < count) :
    leadingBit ≤ nearestBits count 1 ∧ nearestBits count 1 ≤ infinityBits := by
  have exponent := neg_one_le_leading_exponent count
  have size : infinityBits = 2047 * leadingBit := rfl
  rw [nearestBits, if_neg (Nat.ne_of_gt positive)]
  dsimp only
  refine ⟨Nat.le_min.2 ⟨?_, by omega⟩, Nat.min_le_right _ _⟩
  have large : 1 ≤ (max (leadingExponent count 1 - 52) (-1074) + 1074).toNat := by omega
  exact Nat.le_trans (Nat.le_mul_of_pos_left _ large) (Nat.le_add_left _ _)

/-- The bits of a positive count lie between those of the two zeros. -/
theorem of_nat_not_zero {count : Nat} (positive : 0 < count) : (ofNat count == 0.0) = false := by
  obtain ⟨lower, upper⟩ := nearest_bits_bounds positive
  have mark : leadingBit = 2 ^ 52 := rfl
  have top : infinityBits = 2047 * leadingBit := rfl
  have read : (UInt64.ofNat (nearestBits count 1)).toNat = nearestBits count 1 :=
    UInt64.toNat_ofNat_of_lt' (by rw [UInt64.size]; omega)
  have made : ofNat count = Float.ofBits (UInt64.ofNat (nearestBits count 1)) := by
    simp [ofNat, ofQuotient]
  rw [made, ← Bool.not_eq_true]
  intro equal
  rcases zero_bits_of_equals_zero equal with positiveZero | negativeZero
  · rw [positiveZero, UInt64.toNat_zero] at read
    omega
  · rw [negativeZero] at read
    have sign : (0x8000000000000000 : UInt64).toNat = 2 ^ 63 := rfl
    omega

end TraceOverhead.Number
