/-!
# Bytes and words

A word is a pair of bytes, the low one first in memory.  `offset` reads a byte as a signed
distance, so that adding it to a word moves by -128 to 127.
-/

namespace GameBoy

/-- Bit `i` of a byte, counted from the least significant. -/
def bit (byte : UInt8) (i : Nat) : Bool := byte.toNat.testBit i

namespace Word

def low (word : UInt16) : UInt8 := word.toUInt8

def high (word : UInt16) : UInt8 := (word >>> 8).toUInt8

def ofBytes (low high : UInt8) : UInt16 := high.toUInt16 <<< 8 ||| low.toUInt16

/-- The byte as a signed distance, extended to a word. -/
def offset (byte : UInt8) : UInt16 := byte.toInt8.toInt16.toUInt16

/-! ## Words as pairs of bytes -/

theorem toNat_low (word : UInt16) : (low word).toNat = word.toNat % 256 := by
  simp [low]

theorem toNat_high (word : UInt16) : (high word).toNat = word.toNat / 256 := by
  have := word.toNat_lt
  simp [high, Nat.shiftRight_eq_div_pow]
  omega

theorem toNat_ofBytes (low high : UInt8) :
    (ofBytes low high).toNat = 256 * high.toNat + low.toNat := by
  have hlow := low.toNat_lt
  have hhigh := high.toNat_lt
  have hshift : high.toNat <<< 8 % 65536 = high.toNat <<< 8 := by
    rw [Nat.shiftLeft_eq]
    omega
  simp [ofBytes]
  rw [hshift, ← Nat.shiftLeft_add_eq_or_of_lt (by omega), Nat.shiftLeft_eq]
  omega

@[simp] theorem low_ofBytes (low high : UInt8) : Word.low (ofBytes low high) = low := by
  apply UInt8.toNat_inj.mp
  rw [toNat_low, toNat_ofBytes]
  have := low.toNat_lt
  omega

@[simp] theorem high_ofBytes (low high : UInt8) : Word.high (ofBytes low high) = high := by
  apply UInt8.toNat_inj.mp
  rw [toNat_high, toNat_ofBytes]
  have := low.toNat_lt
  omega

@[simp] theorem ofBytes_low_high (word : UInt16) : ofBytes (low word) (high word) = word := by
  apply UInt16.toNat_inj.mp
  rw [toNat_ofBytes, toNat_low, toNat_high]
  omega
end Word

end GameBoy
