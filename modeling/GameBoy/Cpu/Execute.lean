import GameBoy.Cpu.Arithmetic
import GameBoy.Cpu.Basic
import GameBoy.Journal.Entry

/-!
# Executing one instruction

An instruction looks at the registers and at memory and leaves an `Outcome`: the registers after
it, the bytes it sends to the bus in order, and what it reports.  Memory is only read here, and
every instruction has read all it needs before its first write, so an outcome can be handed to
the bus as a whole.

Operand bytes are fetched while the instruction runs, first those of the source, then those of
the destination.
-/

namespace GameBoy

/-- What a piece of execution leaves behind. -/
structure Outcome where
  cpu : Cpu
  writes : List Write := []
  entries : List Entry := []

namespace Cpu

/-! ## Operands -/

/-- The cell of the last page that a byte selects. -/
def highCell (byte : UInt8) : UInt16 := Word.ofBytes byte 0xFF

/-- Reads an operand: its byte, and the registers after fetching and moving what it names. -/
def readOperand (cpu : Cpu) (memory : Memory) : Operand → UInt8 × Cpu
  | .register r => (cpu.register r, cpu)
  | .immediate => cpu.fetchByte memory
  | .absolute =>
    let (address, cpu) := cpu.fetchWord memory
    (memory.read address, cpu)
  | .high =>
    let (byte, cpu) := cpu.fetchByte memory
    (memory.read (highCell byte), cpu)
  | .highRegister r => (memory.read (highCell (cpu.register r)), cpu)
  | .indirect p => (memory.read (cpu.pair p), cpu)
  | .indirectDecrement p => (memory.read (cpu.pair p), cpu.setPair (cpu.pair p - 1) p)
  | .indirectIncrement p => (memory.read (cpu.pair p), cpu.setPair (cpu.pair p + 1) p)

/-- Writes an operand.  A write to an immediate byte does nothing and is reported. -/
def writeOperand (cpu : Cpu) (memory : Memory) (value : UInt8) : Operand → Outcome
  | .register r => { cpu := cpu.setRegister value r }
  | .immediate => { cpu, entries := [.immediateStore cpu.pc] }
  | .absolute =>
    let (address, cpu) := cpu.fetchWord memory
    { cpu, writes := [⟨address, value⟩] }
  | .high =>
    let (byte, cpu) := cpu.fetchByte memory
    { cpu, writes := [⟨highCell byte, value⟩] }
  | .highRegister r => { cpu, writes := [⟨highCell (cpu.register r), value⟩] }
  | .indirect p => { cpu, writes := [⟨cpu.pair p, value⟩] }
  | .indirectDecrement p =>
    { cpu := cpu.setPair (cpu.pair p - 1) p, writes := [⟨cpu.pair p, value⟩] }
  | .indirectIncrement p =>
    { cpu := cpu.setPair (cpu.pair p + 1) p, writes := [⟨cpu.pair p, value⟩] }

/-- Reads an operand, writes back what `operation` makes of it under the flags found, and sets
the flags that the operation leaves. -/
def modify (cpu : Cpu) (memory : Memory) (place : Operand)
    (operation : UInt8 → Flags → Alu.Result) : Outcome :=
  let (byte, cpu) := cpu.readOperand memory place
  let result := operation byte cpu.flags
  let outcome := cpu.writeOperand memory result.value place
  { outcome with cpu := { outcome.cpu with flags := result.flags } }

/-- Like `modify`, for operations that leave the flags alone. -/
def modifyQuietly (cpu : Cpu) (memory : Memory) (place : Operand)
    (operation : UInt8 → UInt8) : Outcome :=
  let (byte, cpu) := cpu.readOperand memory place
  cpu.writeOperand memory (operation byte) place

/-! ## The accumulator -/

/-- The accumulator operation on the registers, with its operand read already. -/
def alu (cpu : Cpu) (op : AluOp) (operand : UInt8) : Cpu :=
  let result :=
    match op with
    | .add => Alu.add cpu.a operand false
    | .adc => Alu.add cpu.a operand cpu.flags.c
    | .sub | .cp => Alu.sub cpu.a operand false
    | .sbc => Alu.sub cpu.a operand cpu.flags.c
    | .and => Alu.and cpu.a operand
    | .xor => Alu.xor cpu.a operand
    | .or => Alu.or cpu.a operand
  match op with
  | .cp => { cpu with flags := result.flags }
  | _ => { cpu with a := result.value, flags := result.flags }

/-- A rotation of the accumulator, which always clears the zero flag. -/
def rotate (cpu : Cpu) (result : Alu.Result) : Outcome :=
  { cpu := { cpu with a := result.value, flags := { c := result.flags.c } } }

/-- The shift of a byte under the given flags. -/
def shift (op : ShiftOp) (byte : UInt8) (flags : Flags) : Alu.Result :=
  match op with
  | .rlc => Alu.rlc byte
  | .rrc => Alu.rrc byte
  | .rl => Alu.rl byte flags.c
  | .rr => Alu.rr byte flags.c
  | .sla => Alu.sla byte
  | .sra => Alu.sra byte
  | .swap => Alu.swap byte
  | .srl => Alu.srl byte

/-! ## The stack and control -/

/-- Pushes a word: the high byte goes to the higher address, first. -/
def pushWord (cpu : Cpu) (word : UInt16) : Outcome where
  cpu := { cpu with sp := cpu.sp - 2 }
  writes := [⟨cpu.sp - 1, Word.high word⟩, ⟨cpu.sp - 2, Word.low word⟩]

/-- Pushes the program counter and continues at `target`. -/
def callTo (cpu : Cpu) (target : UInt16) : Outcome :=
  let outcome := cpu.pushWord cpu.pc
  { outcome with cpu := { outcome.cpu with pc := target } }

/-- Continues at the address on top of the stack. -/
def returnToCaller (cpu : Cpu) (memory : Memory) : Cpu :=
  let (target, cpu) := cpu.popWord memory
  { cpu with pc := target }

/-- Stops until an interrupt is pending.  If one already is and interrupts are off, the processor
goes on, and the next opcode fetch forgets to move the program counter. -/
def halt (cpu : Cpu) (memory : Memory) : Outcome :=
  if !cpu.ime && memory.pending != 0 then
    { cpu := { cpu with haltBug := true }, entries := [.haltBug cpu.pc] }
  else
    { cpu := { cpu with halted := true } }

/-! ## Instructions -/

/-- Executes an instruction whose opcode has been fetched. -/
def execute (cpu : Cpu) (memory : Memory) : Instruction → Outcome
  | .nop => { cpu }
  | .escape => { cpu, entries := [.loneEscape cpu.pc] }
  | .illegal opcode => { cpu, entries := [.illegalOpcode opcode (cpu.pc - 1)] }
  -- The byte after the opcode of STOP is padding.
  | .stop => { cpu := { cpu with pc := cpu.pc + 1, halted := true } }
  | .halt => cpu.halt memory
  | .di => { cpu := { cpu with ime := false, imeDelay := 0 } }
  | .ei =>
    if !cpu.ime && cpu.imeDelay == 0 then { cpu := { cpu with imeDelay := 2 } } else { cpu }
  | .load dest src =>
    let (byte, cpu) := cpu.readOperand memory src
    cpu.writeOperand memory byte dest
  | .loadWord p =>
    let (word, cpu) := cpu.fetchWord memory
    { cpu := cpu.setPair word p }
  | .storeSp =>
    let (address, cpu) := cpu.fetchWord memory
    { cpu, writes := Write.word address cpu.sp }
  | .loadSpHl => { cpu := { cpu with sp := cpu.pair .hl } }
  | .loadHlSpOffset =>
    let (distance, cpu) := cpu.fetchByte memory
    let sum := Alu.addOffset cpu.sp distance
    { cpu := { cpu.setPair sum.value .hl with flags := { h := sum.h, c := sum.c } } }
  | .push p => cpu.pushWord (cpu.pair p)
  | .pop p =>
    let (word, cpu) := cpu.popWord memory
    { cpu := cpu.setPair word p }
  | .alu op src =>
    let (operand, cpu) := cpu.readOperand memory src
    { cpu := cpu.alu op operand }
  | .inc place => cpu.modify memory place fun byte flags => Alu.inc byte flags.c
  | .dec place => cpu.modify memory place fun byte flags => Alu.dec byte flags.c
  | .incWord p => { cpu := cpu.setPair (cpu.pair p + 1) p }
  | .decWord p => { cpu := cpu.setPair (cpu.pair p - 1) p }
  | .addHl p =>
    let sum := Alu.addWords (cpu.pair .hl) (cpu.pair p)
    let flags := { cpu.flags with n := false, h := sum.h, c := sum.c }
    { cpu := { cpu.setPair sum.value .hl with flags } }
  | .addSpOffset =>
    let (distance, cpu) := cpu.fetchByte memory
    let sum := Alu.addOffset cpu.sp distance
    { cpu := { cpu with sp := sum.value, flags := { h := sum.h, c := sum.c } } }
  | .rlca => cpu.rotate (Alu.rlc cpu.a)
  | .rrca => cpu.rotate (Alu.rrc cpu.a)
  | .rla => cpu.rotate (Alu.rl cpu.a cpu.flags.c)
  | .rra => cpu.rotate (Alu.rr cpu.a cpu.flags.c)
  | .daa =>
    let result := Alu.daa cpu.a cpu.flags
    { cpu := { cpu with a := result.value, flags := result.flags } }
  | .cpl => { cpu := { cpu with a := ~~~cpu.a, flags := { cpu.flags with n := true, h := true } } }
  | .scf => { cpu := { cpu with flags := { cpu.flags with n := false, h := false, c := true } } }
  | .ccf =>
    let flags := { cpu.flags with n := false, h := false, c := !cpu.flags.c }
    { cpu := { cpu with flags } }
  | .jump condition =>
    let (target, cpu) := cpu.fetchWord memory
    { cpu := if cpu.flags.holds condition then { cpu with pc := target } else cpu }
  | .jumpHl => { cpu := { cpu with pc := cpu.pair .hl } }
  | .jumpRelative condition =>
    let (distance, cpu) := cpu.fetchByte memory
    let target := cpu.pc + Word.offset distance
    { cpu := if cpu.flags.holds condition then { cpu with pc := target } else cpu }
  | .call condition =>
    let (target, cpu) := cpu.fetchWord memory
    if cpu.flags.holds condition then cpu.callTo target else { cpu }
  | .ret condition =>
    { cpu := if cpu.flags.holds condition then cpu.returnToCaller memory else cpu }
  | .reti => { cpu := { cpu.returnToCaller memory with ime := true } }
  | .restart vector => cpu.callTo vector.toUInt16
  | .shift op place => cpu.modify memory place (shift op)
  | .testBit index place =>
    let (byte, cpu) := cpu.readOperand memory place
    let flags := { cpu.flags with z := !bit byte index, n := false, h := true }
    { cpu := { cpu with flags } }
  | .resetBit index place =>
    cpu.modifyQuietly memory place fun byte => byte &&& ~~~(1 <<< UInt8.ofNat index)
  | .setBit index place =>
    cpu.modifyQuietly memory place fun byte => byte ||| 1 <<< UInt8.ofNat index

end Cpu

end GameBoy
