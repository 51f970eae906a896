import GameBoy.Cpu.Execute
import GameBoy.Instruction.Decode

/-!
# One step of the processor

A step idles while the processor is halted, serves an interrupt, or executes one instruction.
Serving has priority over executing; a halted processor wakes up on any pending interrupt,
whether interrupts are served or not.
-/

namespace GameBoy

/-- What a step leaves behind, with the clock cycles it took. -/
structure Step extends Outcome where
  duration : Nat

namespace Cpu

/-- The clock cycles of serving an interrupt. -/
def serviceCycles : Nat := 20

/-! ## Fetching -/

/-- Fetches an opcode, and the second byte of an extended encoding. -/
def fetchInstruction (cpu : Cpu) (memory : Memory) : Instruction × Cpu :=
  let opcode := memory.read cpu.pc
  let cpu :=
    if cpu.haltBug then { cpu with haltBug := false } else { cpu with pc := cpu.pc + 1 }
  match Instruction.decode opcode with
  | .escape =>
    let (extension, cpu) := cpu.fetchByte memory
    (Instruction.decodeExtended extension, cpu)
  | instruction => (instruction, cpu)

/-- Counts an instruction against a scheduled switch of the interrupts. -/
def countDown (cpu : Cpu) : Cpu :=
  match cpu.imeDelay with
  | 0 => cpu
  | 1 => { cpu with imeDelay := 0, ime := true }
  | delay + 2 => { cpu with imeDelay := delay + 1 }

/-! ## Steps -/

/-- Serves an interrupt: its request is withdrawn, then the return address is pushed.  After a
halt that did not happen, the return address is that of the halt itself. -/
def service (cpu : Cpu) (memory : Memory) (source : Interrupt) : Outcome :=
  let acknowledged := memory.read Address.interruptRequest &&& ~~~source.mask
  let returnAddress := if cpu.haltBug then cpu.pc - 1 else cpu.pc
  let outcome := cpu.pushWord returnAddress
  { cpu :=
      { outcome.cpu with pc := source.vector, ime := false, imeDelay := 0, haltBug := false }
    writes := ⟨Address.interruptRequest, acknowledged⟩ :: outcome.writes
    entries := [.servicing source cpu.pc] }

/-- Fetches and executes one instruction. -/
def runInstruction (cpu : Cpu) (memory : Memory) : Step :=
  let (instruction, fetched) := cpu.fetchInstruction memory
  let outcome := fetched.execute memory instruction
  { cpu := outcome.cpu.countDown
    writes := outcome.writes
    entries := .executing cpu.pc instruction :: outcome.entries
    duration := instruction.cycles fetched.flags }

/-- The step of a processor that is not halted. -/
def stepAwake (cpu : Cpu) (memory : Memory) : Step :=
  match if cpu.ime then Interrupt.highest? memory.pending else none with
  | some source => { cpu.service memory source with duration := serviceCycles }
  | none => cpu.runInstruction memory

/-- One step, before its cycles are counted. -/
def stepUncounted (cpu : Cpu) (memory : Memory) : Step :=
  if cpu.halted then
    if memory.pending == 0 then
      { cpu, duration := 4 }
    else
      let step := { cpu with halted := false }.stepAwake memory
      { step with entries := .wokeUp :: step.entries }
  else
    cpu.stepAwake memory

/-- One step of the processor, whose cycle counter grows by the duration. -/
def step (cpu : Cpu) (memory : Memory) : Step :=
  let step := cpu.stepUncounted memory
  { step with cpu := { step.cpu with cycles := cpu.cycles + step.duration } }

theorem duration_pos (cpu : Cpu) (memory : Memory) : 0 < (cpu.step memory).duration := by
  have hrun (cpu : Cpu) : 0 < (cpu.runInstruction memory).duration :=
    Instruction.cycles_pos _ _
  have hawake (cpu : Cpu) : 0 < (cpu.stepAwake memory).duration := by
    unfold stepAwake
    split
    · exact Nat.succ_pos _
    · exact hrun cpu
  unfold step stepUncounted
  split
  · split
    · exact Nat.succ_pos _
    · exact hawake _
  · exact hawake _

theorem cycles_step (cpu : Cpu) (memory : Memory) :
    (cpu.step memory).cpu.cycles = cpu.cycles + (cpu.step memory).duration := rfl

end Cpu

end GameBoy
