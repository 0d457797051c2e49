import Mathlib.Data.Nat.Bitwise

/-!
Single bits and low masks of 32-bit words, read through the word's number:
testing a flag is `Nat.testBit`, masking the low bits is a remainder.
-/

namespace NginLink.WordBits

theorem and_flag (word flag : UInt32) (bit : Nat) (single : flag.toNat = 2 ^ bit) :
    (word &&& flag != 0) = word.toNat.testBit bit := by
  have value : (word &&& flag).toNat = (word.toNat.testBit bit).toNat * 2 ^ bit := by
    rw [UInt32.toNat_and, single, Nat.and_two_pow]
  have positive := Nat.two_pow_pos bit
  cases tested : word.toNat.testBit bit with
  | false =>
      have zero : word &&& flag = 0 := by
        apply UInt32.toNat.inj
        simpa [tested] using value
      simp [zero]
  | true =>
      have nonZero : word &&& flag ≠ 0 := by
        intro zero
        simp only [zero, tested, UInt32.toNat_zero, Bool.toNat_true, Nat.one_mul] at value
        omega
      simp [nonZero]

/-- Testing for the flag itself is the same test. -/
theorem and_flag_eq (word flag : UInt32) (bit : Nat) (single : flag.toNat = 2 ^ bit) :
    (word &&& flag == flag) = word.toNat.testBit bit := by
  have value : (word &&& flag).toNat = (word.toNat.testBit bit).toNat * flag.toNat := by
    rw [UInt32.toNat_and, single, Nat.and_two_pow]
  have positive := Nat.two_pow_pos bit
  cases tested : word.toNat.testBit bit with
  | false =>
      rw [tested, Bool.toNat_false, Nat.zero_mul] at value
      rw [beq_eq_false_iff_ne]
      intro same
      rw [same] at value
      omega
  | true =>
      rw [tested, Bool.toNat_true, Nat.one_mul] at value
      exact beq_iff_eq.mpr (UInt32.toNat.inj value)

theorem low_mask (word mask : UInt32) (width : Nat) (low : mask.toNat = 2 ^ width - 1) :
    (word &&& mask).toNat = word.toNat % 2 ^ width := by
  rw [UInt32.toNat_and, low, Nat.and_two_pow_sub_one_eq_mod]

theorem test_and (left right : UInt32) (bit : Nat) :
    (left &&& right).toNat.testBit bit = (left.toNat.testBit bit && right.toNat.testBit bit) := by
  rw [UInt32.toNat_and, Nat.testBit_and]

theorem test_or (left right : UInt32) (bit : Nat) :
    (left ||| right).toNat.testBit bit = (left.toNat.testBit bit || right.toNat.testBit bit) := by
  rw [UInt32.toNat_or, Nat.testBit_or]

/-- Masking after a flag above the mask was set gives the masked value back. -/
theorem mask_or_flag (word mask flag : UInt32) (apart : flag &&& mask = 0) :
    ((word &&& mask) ||| flag) &&& mask = word &&& mask := by
  apply UInt32.toNat.inj
  apply Nat.eq_of_testBit_eq
  intro bit
  have clear := congrArg (fun value => value.toNat.testBit bit) apart
  simp only [test_and, UInt32.toNat_zero, Nat.zero_testBit] at clear
  rw [test_and, test_or, test_and]
  cases flagged : flag.toNat.testBit bit with
  | false => cases mask.toNat.testBit bit <;> simp
  | true => simp_all

theorem mask_mask (word mask : UInt32) : (word &&& mask) &&& mask = word &&& mask := by
  rw [UInt32.and_assoc, UInt32.and_self]

theorem low_mask_of_lt (word mask : UInt32) (width : Nat) (low : mask.toNat = 2 ^ width - 1)
    (small : word.toNat < 2 ^ width) : word &&& mask = word := by
  apply UInt32.toNat.inj
  rw [low_mask word mask width low, Nat.mod_eq_of_lt small]

end NginLink.WordBits
