import GameBoy.Interrupt
import GameBoy.Word

/-!
# Bits of bytes

`bit` is a view of a byte: `bit_ext` says that nothing else tells two bytes apart, and `bit_or`,
`bit_and` and `bit_not` what the operations do to it.  The interrupt sources are single bits,
`bit_mask`.
-/

namespace GameBoy

theorem bit_or (a b : UInt8) (i : Nat) : bit (a ||| b) i = (bit a i || bit b i) := by
  simp [bit]

theorem bit_and (a b : UInt8) (i : Nat) : bit (a &&& b) i = (bit a i && bit b i) := by
  simp [bit]

/-- A byte has no bits above the eighth. -/
theorem bit_of_le (byte : UInt8) {i : Nat} (h : 8 ≤ i) : bit byte i = false := by
  have hlt : byte.toNat < 2 ^ 8 := byte.toNat_lt
  exact Nat.testBit_lt_two_pow (Nat.lt_of_lt_of_le hlt (Nat.pow_le_pow_right (by decide) h))

theorem bit_not (byte : UInt8) {i : Nat} (h : i < 8) : bit (~~~byte) i = !bit byte i := by
  have hnot : (~~~byte).toNat = 2 ^ 8 - (byte.toNat + 1) := by
    have hcomplement : (~~~byte).toNat = 256 - 1 - byte.toNat := byte.toNat_not
    omega
  rw [bit, hnot, Nat.testBit_two_pow_sub_succ byte.toNat_lt, decide_eq_true h, Bool.true_and]
  rfl

theorem bit_ext {a b : UInt8} (h : ∀ i < 8, bit a i = bit b i) : a = b := by
  apply UInt8.toNat_inj.mp
  apply Nat.eq_of_testBit_eq
  intro i
  rcases Nat.lt_or_ge i 8 with hi | hi
  · exact h i hi
  · exact (bit_of_le a hi).trans (bit_of_le b hi).symm

theorem Interrupt.bit_mask (source : Interrupt) (i : Nat) :
    bit source.mask i = decide (i = source.index) := by
  have hmask : source.mask.toNat = 2 ^ source.index := by cases source <;> rfl
  rw [bit, hmask, Nat.testBit_two_pow]
  simp only [eq_comm]

end GameBoy
