import GameBoy.Cpu.Flags
import GameBoy.Instruction.Operand
import GameBoy.Memory

/-!
# The processor's registers

`Cpu` holds the byte registers, the flags, the program counter, the stack pointer and the control
state.  A register pair is a view of two byte registers, never storage of its own.
-/

namespace GameBoy

structure Cpu where
  a : UInt8
  b : UInt8
  c : UInt8
  d : UInt8
  e : UInt8
  h : UInt8
  l : UInt8
  flags : Flags
  /-- The program counter. -/
  pc : UInt16
  /-- The stack pointer. -/
  sp : UInt16
  halted : Bool
  /-- Whether interrupts are served. -/
  ime : Bool
  /-- How many instructions remain until interrupts are served; zero when nothing is scheduled. -/
  imeDelay : Nat
  /-- Whether the next opcode fetch leaves the program counter where it is. -/
  haltBug : Bool
  /-- Clock cycles since power-on, without a limit; in `Cpu.step?` the clock has 64 bits. -/
  cycles : Nat
  deriving DecidableEq, Repr

namespace Cpu

/-- The registers as the boot program leaves them. -/
def powerOn : Cpu where
  a := 0x01
  b := 0x00
  c := 0x13
  d := 0x00
  e := 0xD8
  h := 0x01
  l := 0x4D
  flags := .ofByte 0xB0
  pc := 0x0100
  sp := 0xFFFE
  halted := false
  ime := false
  imeDelay := 0
  haltBug := false
  cycles := 0

/-! ## Registers -/

/-- The flags as the byte register F. -/
def f (cpu : Cpu) : UInt8 := cpu.flags.toByte

def register (cpu : Cpu) : Register → UInt8
  | .a => cpu.a
  | .b => cpu.b
  | .c => cpu.c
  | .d => cpu.d
  | .e => cpu.e
  | .h => cpu.h
  | .l => cpu.l

def setRegister (cpu : Cpu) (value : UInt8) : Register → Cpu
  | .a => { cpu with a := value }
  | .b => { cpu with b := value }
  | .c => { cpu with c := value }
  | .d => { cpu with d := value }
  | .e => { cpu with e := value }
  | .h => { cpu with h := value }
  | .l => { cpu with l := value }

def pair (cpu : Cpu) : Pair → UInt16
  | .af => Word.ofBytes cpu.f cpu.a
  | .bc => Word.ofBytes cpu.c cpu.b
  | .de => Word.ofBytes cpu.e cpu.d
  | .hl => Word.ofBytes cpu.l cpu.h
  | .sp => cpu.sp

/-- Sets a register pair; the low nibble of F is dropped. -/
def setPair (cpu : Cpu) (value : UInt16) : Pair → Cpu
  | .af => { cpu with a := Word.high value, flags := .ofByte (Word.low value) }
  | .bc => { cpu with b := Word.high value, c := Word.low value }
  | .de => { cpu with d := Word.high value, e := Word.low value }
  | .hl => { cpu with h := Word.high value, l := Word.low value }
  | .sp => { cpu with sp := value }

theorem register_setRegister (cpu : Cpu) (value : UInt8) (r s : Register) :
    (cpu.setRegister value r).register s = if r = s then value else cpu.register s := by
  cases r <;> cases s <;> rfl

/-- A pair reads back what was written to it, except AF, whose low nibble is always zero. -/
theorem pair_setPair (cpu : Cpu) (value : UInt16) {p : Pair} (h : p ≠ .af) :
    (cpu.setPair value p).pair p = value := by
  cases p with
  | af => exact absurd rfl h
  | bc | de | hl => exact Word.ofBytes_low_high value
  | sp => rfl

/-! ## Fetching and the stack -/

/-- The byte at the program counter, which moves past it. -/
def fetchByte (cpu : Cpu) (memory : Memory) : UInt8 × Cpu :=
  (memory.read cpu.pc, { cpu with pc := cpu.pc + 1 })

/-- The word at the program counter, which moves past it. -/
def fetchWord (cpu : Cpu) (memory : Memory) : UInt16 × Cpu :=
  (memory.readWord cpu.pc, { cpu with pc := cpu.pc + 2 })

/-- The word on top of the stack, which shrinks by it. -/
def popWord (cpu : Cpu) (memory : Memory) : UInt16 × Cpu :=
  (memory.readWord cpu.sp, { cpu with sp := cpu.sp + 2 })

end Cpu

end GameBoy
