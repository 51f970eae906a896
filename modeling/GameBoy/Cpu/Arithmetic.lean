import GameBoy.Cpu.Flags

/-!
# Arithmetic of the processor

Every operation is a function of its operands and the incoming flags that returns the value
together with the outgoing flags.  Byte operations return all four flags; the word additions
return only the two carries, since they leave the others to the instruction.
-/

namespace GameBoy.Alu

/-- The value of a byte operation and the flags it leaves. -/
structure Result where
  value : UInt8
  flags : Flags
  deriving DecidableEq, Repr

/-! ## Addition and subtraction -/

/-- `a + b + carry`.  Half carry and carry are the carries out of bits 3 and 7. -/
def add (a b : UInt8) (carry : Bool) : Result :=
  let value := a + b + carry.toUInt8
  { value
    flags :=
      { z := value == 0
        n := false
        h := a.toNat % 16 + b.toNat % 16 + carry.toNat > 0x0F
        c := a.toNat + b.toNat + carry.toNat > 0xFF } }

/-- `a - b - carry`.  Half carry and carry are the borrows into bits 4 and 8. -/
def sub (a b : UInt8) (carry : Bool) : Result :=
  let value := a - b - carry.toUInt8
  { value
    flags :=
      { z := value == 0
        n := true
        h := a.toNat % 16 < b.toNat % 16 + carry.toNat
        c := a.toNat < b.toNat + carry.toNat } }

/-- One more, with the carry left as it was. -/
def inc (a : UInt8) (carry : Bool) : Result :=
  let value := a + 1
  { value, flags := { z := value == 0, n := false, h := a.toNat % 16 == 0x0F, c := carry } }

/-- One less, with the carry left as it was. -/
def dec (a : UInt8) (carry : Bool) : Result :=
  let value := a - 1
  { value, flags := { z := value == 0, n := true, h := a.toNat % 16 == 0, c := carry } }

/-! ## Logic -/

/-- Bitwise conjunction, which always sets the half carry. -/
def and (a b : UInt8) : Result :=
  let value := a &&& b
  { value, flags := { z := value == 0, h := true } }

def or (a b : UInt8) : Result :=
  let value := a ||| b
  { value, flags := { z := value == 0 } }

def xor (a b : UInt8) : Result :=
  let value := a ^^^ b
  { value, flags := { z := value == 0 } }

/-! ## Rotations and shifts -/

/-- The result of a shift: the value and the bit that fell out. -/
def shifted (value : UInt8) (carry : Bool) : Result :=
  { value, flags := { z := value == 0, c := carry } }

/-- Rotate left; bit 7 comes back as bit 0. -/
def rlc (a : UInt8) : Result := shifted (a <<< 1 ||| a >>> 7) (bit a 7)

/-- Rotate right; bit 0 comes back as bit 7. -/
def rrc (a : UInt8) : Result := shifted (a >>> 1 ||| a <<< 7) (bit a 0)

/-- Rotate left through the carry. -/
def rl (a : UInt8) (carry : Bool) : Result := shifted (a <<< 1 ||| carry.toUInt8) (bit a 7)

/-- Rotate right through the carry. -/
def rr (a : UInt8) (carry : Bool) : Result := shifted (a >>> 1 ||| carry.toUInt8 <<< 7) (bit a 0)

def sla (a : UInt8) : Result := shifted (a <<< 1) (bit a 7)

/-- Shift right and keep bit 7. -/
def sra (a : UInt8) : Result := shifted (a >>> 1 ||| a &&& 0x80) (bit a 0)

def srl (a : UInt8) : Result := shifted (a >>> 1) (bit a 0)

/-- Exchange the nibbles. -/
def swap (a : UInt8) : Result := shifted (a <<< 4 ||| a >>> 4) false

/-! ## Decimal adjustment -/

/-- Correct the accumulator to packed decimal after an addition or subtraction that left the
given flags. -/
def daa (a : UInt8) (flags : Flags) : Result :=
  let units := flags.h || (!flags.n && a.toNat % 16 > 0x09)
  let tens := flags.c || (!flags.n && a > 0x99)
  let correction : UInt8 := (if units then 0x06 else 0) + (if tens then 0x60 else 0)
  let value := if flags.n then a - correction else a + correction
  { value, flags := { z := value == 0, n := flags.n, h := false, c := tens } }

/-! ## Word additions -/

/-- The value of a word addition and its two carries. -/
structure WordResult where
  value : UInt16
  h : Bool
  c : Bool
  deriving DecidableEq, Repr

/-- Word addition as two byte additions, low bytes first; the carries are those of the high
bytes. -/
def addWords (a b : UInt16) : WordResult :=
  let low := add (Word.low a) (Word.low b) false
  let high := add (Word.high a) (Word.high b) low.flags.c
  { value := Word.ofBytes low.value high.value, h := high.flags.h, c := high.flags.c }

/-- A word moved by a signed byte; the carries are those of the unsigned low bytes. -/
def addOffset (word : UInt16) (distance : UInt8) : WordResult :=
  let low := add (Word.low word) distance false
  { value := word + Word.offset distance, h := low.flags.h, c := low.flags.c }

end GameBoy.Alu
