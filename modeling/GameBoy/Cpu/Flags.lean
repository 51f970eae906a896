import GameBoy.Instruction.Operand
import GameBoy.Word

/-!
# Condition flags

The four flags are the high nibble of the byte register F, whose low nibble always reads as
zero.
-/

namespace GameBoy

structure Flags where
  /-- The result was zero. -/
  z : Bool := false
  /-- The last operation was a subtraction. -/
  n : Bool := false
  /-- A carry or borrow crossed the nibbles. -/
  h : Bool := false
  /-- A carry or borrow left the byte. -/
  c : Bool := false
  deriving DecidableEq, Repr

namespace Flags

def toByte (flags : Flags) : UInt8 :=
  (if flags.z then 0x80 else 0) ||| (if flags.n then 0x40 else 0) |||
    (if flags.h then 0x20 else 0) ||| (if flags.c then 0x10 else 0)

def ofByte (byte : UInt8) : Flags where
  z := bit byte 7
  n := bit byte 6
  h := bit byte 5
  c := bit byte 4

/-- Whether a branch with this condition is taken. -/
def holds (flags : Flags) : Option Condition → Bool
  | none => true
  | some .zero => flags.z
  | some .notZero => !flags.z
  | some .carry => flags.c
  | some .notCarry => !flags.c

/-- The letters of the flags that are set, with a dash in place of each clear one. -/
def text (flags : Flags) : String :=
  String.ofList ['[', if flags.z then 'Z' else '-', if flags.n then 'N' else '-',
    if flags.h then 'H' else '-', if flags.c then 'C' else '-', ']']

end Flags

end GameBoy
