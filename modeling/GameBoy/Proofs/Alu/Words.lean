import GameBoy.Proofs.Alu.Binary

/-!
# Word additions

A word addition is a chain of two byte additions, the low bytes first.  The balances of both bytes
add up to one of the words, `addWords_balance`, so that the carry of the high bytes is that of the
words, and so is their half carry one nibble below.

A distance that is added to a word has no such chain: the value is that of a word addition, with the
distance extended by its sign, while the flags come from the low bytes alone.  They are nevertheless
carries of the word addition, since the extension keeps the low byte, `low_offset`.  Where an
addition carries shows in the bits of the operands and the value, `testBit_xor_add`.
-/

namespace GameBoy

namespace Word

/-- A byte from `0x80` up stands for a negative distance, which has all bits above it set. -/
theorem toNat_offset (distance : UInt8) :
    (offset distance).toNat =
      if distance.toNat < 0x80 then distance.toNat else 0xFF00 + distance.toNat := by
  have hlt := distance.toNat_lt
  -- the upper byte of the extended word is all ones or all zeros, by the top bit
  have hmsb : distance.toBitVec.msb = decide (0x80 ≤ distance.toNat) := BitVec.msb_eq_decide _
  calc (offset distance).toNat
      = (distance.toBitVec.signExtend 16).toNat := rfl
    _ = distance.toNat % 0x10000 + if distance.toBitVec.msb then 0xFF00 else 0 := by
        rw [BitVec.toNat_signExtend, BitVec.toNat_setWidth]
        rfl
    _ = _ := by
        rw [hmsb]
        simp only [decide_eq_true_eq]
        split <;> split <;> omega

theorem low_offset (distance : UInt8) : low (offset distance) = distance := by
  have hlt := distance.toNat_lt
  apply UInt8.toNat_inj.mp
  rw [toNat_low, toNat_offset]
  split <;> omega

end Word

namespace Alu

/-! ## Two bytes -/

theorem addWords_balance (a b : UInt16) :
    (addWords a b).value.toNat + 65536 * (addWords a b).c.toNat = a.toNat + b.toNat := by
  have hlow := add_balance (Word.low a) (Word.low b) false
  have hhigh := add_balance (Word.high a) (Word.high b)
    (add (Word.low a) (Word.low b) false).flags.c
  simp only [Word.toNat_low, Word.toNat_high, Bool.toNat_false] at hlow hhigh
  simp only [addWords, Word.toNat_ofBytes]
  omega

theorem addWords_half (a b : UInt16) :
    (addWords a b).h = decide (4096 ≤ a.toNat % 4096 + b.toNat % 4096) := by
  have hlow := add_balance (Word.low a) (Word.low b) false
  have hvalue := (add (Word.low a) (Word.low b) false).value.toNat_lt
  -- the half carry is that of the upper bytes, with the carry of the lower ones coming in
  have hhalf : (addWords a b).h =
      decide (0x0F < (Word.high a).toNat % 16 + (Word.high b).toNat % 16 +
        (add (Word.low a) (Word.low b) false).flags.c.toNat) := rfl
  simp only [Word.toNat_low, Bool.toNat_false] at hlow
  rw [hhalf, Word.toNat_high, Word.toNat_high, decide_eq_decide]
  omega

/-! ## Carries inside an addition -/

/-- A bit of a sum differs from those of the operands where the bits below it carry. -/
theorem testBit_xor_add (a b : UInt16) {i : Nat} (hi : i < 16) :
    (a ^^^ b ^^^ (a + b)).toNat.testBit i =
      decide (2 ^ i ≤ a.toNat % 2 ^ i + b.toNat % 2 ^ i) := by
  have hsum : (a + b).toNat.testBit i = (a.toNat.testBit i ^^ (b.toNat.testBit i ^^
      decide (2 ^ i ≤ a.toNat % 2 ^ i + b.toNat % 2 ^ i))) :=
    BitVec.getLsbD_add hi a.toBitVec b.toBitVec
  rw [UInt16.toNat_xor, UInt16.toNat_xor, Nat.testBit_xor, Nat.testBit_xor, hsum]
  cases a.toNat.testBit i <;> cases b.toNat.testBit i <;> simp

theorem addOffset_carries (word : UInt16) (distance : UInt8) :
    let o := Word.offset distance
    (addOffset word distance).h = decide (16 ≤ word.toNat % 16 + o.toNat % 16) ∧
      (addOffset word distance).c = decide (256 ≤ word.toNat % 256 + o.toNat % 256) := by
  intro o
  have hdistance : distance.toNat = o.toNat % 256 := by
    rw [← Word.toNat_low, Word.low_offset]
  simp only [addOffset, add, Word.toNat_low, hdistance, Bool.toNat_false, decide_eq_decide]
  omega

/-- **Word additions.** The two byte additions of a word addition give the sum of the words, with
its carry and the carry out of the lower twelve bits.  A moved word is the sum of the word and the
distance extended by its sign, and its flags are the carries out of the lower four and eight bits of
this sum. -/
theorem word_additions (a b : UInt16) (distance : UInt8) :
    let sum := addWords a b
    let o := Word.offset distance
    let moved := addOffset a distance
    let carries := (a ^^^ o ^^^ moved.value).toNat
    sum.value.toNat = (a.toNat + b.toNat) % 65536 ∧
      sum.c = decide (65536 ≤ a.toNat + b.toNat) ∧
      sum.h = decide (4096 ≤ a.toNat % 4096 + b.toNat % 4096) ∧
      o.toNat = (if distance.toNat < 128 then distance.toNat else 0xFF00 + distance.toNat) ∧
      moved.value.toNat = (a.toNat + o.toNat) % 65536 ∧
      moved.h = decide (16 ≤ a.toNat % 16 + o.toNat % 16) ∧
      moved.h = carries.testBit 4 ∧
      moved.c = decide (256 ≤ a.toNat % 256 + o.toNat % 256) ∧
      moved.c = carries.testBit 8 := by
  intro sum o moved carries
  have hbalance : sum.value.toNat + 65536 * sum.c.toNat = a.toNat + b.toNat := addWords_balance a b
  have hvalue := sum.value.toNat_lt
  have hsum := (mod_of_balance hvalue hbalance).symm
  have hcarry := (carry_of_balance hvalue hbalance).symm
  obtain ⟨hh, hc⟩ := addOffset_carries a distance
  have hbit (i : Nat) (hi : i < 16) : carries.testBit i =
      decide (2 ^ i ≤ a.toNat % 2 ^ i + o.toNat % 2 ^ i) := testBit_xor_add a o hi
  exact ⟨hsum, hcarry, addWords_half a b, Word.toNat_offset distance, UInt16.toNat_add a o, hh,
    hh.trans (hbit 4 (by decide)).symm, hc, hc.trans (hbit 8 (by decide)).symm⟩

end Alu

end GameBoy
