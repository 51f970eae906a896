import GameBoy.Machine
import GameBoy.Proofs.Cpu.Control

/-!
# Steps that execute

A processor that is awake and serves nothing executes the instruction at the program counter.  Which
one that is can be read off memory alone, `Memory.instructionAt`, as long as the opcode is not one
that is fetched twice; `step_of_awake`, `executed_step_of_awake` and `control_step_of_awake` say
what the step reports and what becomes of the control state.  A halted processor that wakes up goes
on in the same way, `step_of_woken`.  For every step that executes, repeated fetches included,
`Executes` names the instruction and the processor that has fetched it.

`stepOn` is a step together with what the bus makes of its writes, and so the processor's part of a
step of the machine, `Machine.stepCpu_eq_stepOn`.
-/

namespace GameBoy

theorem Instruction.decodeExtended_ne_halt (opcode : UInt8) : decodeExtended opcode ≠ halt := by
  unfold decodeExtended
  dsimp only
  split <;> exact Instruction.noConfusion

/-- The instruction that is encoded at an address. -/
def Memory.instructionAt (memory : Memory) (address : UInt16) : Instruction :=
  match Instruction.decode (memory.read address) with
  | .escape => Instruction.decodeExtended (memory.read (address + 1))
  | instruction => instruction

namespace Cpu

variable {cpu : Cpu} {memory : Memory}

theorem fst_fetchInstruction (hbug : cpu.haltBug = false) :
    (cpu.fetchInstruction memory).1 = memory.instructionAt cpu.pc := by
  unfold fetchInstruction Memory.instructionAt
  rw [hbug]
  dsimp only
  cases Instruction.decode (memory.read cpu.pc) <;> rfl

/-- The fetch of an encoding of one byte moves the program counter past it. -/
theorem fetchInstruction_of_plain (hbug : cpu.haltBug = false) {instruction : Instruction}
    (hdecode : Instruction.decode (memory.read cpu.pc) = instruction)
    (hplain : instruction ≠ .escape) :
    cpu.fetchInstruction memory = (instruction, { cpu with pc := cpu.pc + 1 }) := by
  -- the field has to be a value for the record that passes over the opcode to compute
  obtain ⟨a, b, c, d, e, h, l, flags, pc, sp, halted, ime, imeDelay, haltBug, cycles⟩ := cpu
  obtain rfl : haltBug = false := hbug
  unfold fetchInstruction
  dsimp only at hdecode ⊢
  rw [hdecode]
  cases instruction with
  | escape => exact absurd rfl hplain
  | _ => rfl

/-- The halt has no extended encoding. -/
theorem decode_of_fetchInstruction_eq_halt (hhalt : (cpu.fetchInstruction memory).1 = .halt) :
    Instruction.decode (memory.read cpu.pc) = .halt := by
  unfold fetchInstruction at hhalt
  dsimp only at hhalt
  split at hhalt
  · exact absurd hhalt (Instruction.decodeExtended_ne_halt _)
  · exact hhalt

theorem served?_of_off (hoff : cpu.ime = false) (memory : Memory) : cpu.served? memory = none := by
  rw [served?_eq_none_iff, hoff]
  exact fun hserving => Bool.false_ne_true hserving.1

theorem exists_served (hon : cpu.ime = true) (hpending : memory.pending ≠ 0) :
    ∃ source, cpu.served? memory = some source := by
  cases hserved : cpu.served? memory with
  | none => exact absurd ⟨hon, hpending⟩ (served?_eq_none_iff.mp hserved)
  | some source => exact ⟨source, rfl⟩

theorem not_idle_of_awake (hawake : cpu.halted = false) (memory : Memory) :
    ¬ (cpu.halted = true ∧ memory.pending = 0) := by
  intro hidle
  exact Bool.false_ne_true (hawake.symm.trans hidle.1)

theorem step_of_awake (hawake : cpu.halted = false) (hserved : cpu.served? memory = none) :
    cpu.step memory =
      { cpu.runInstruction memory with
        cpu := { (cpu.runInstruction memory).cpu with
          cycles := cpu.cycles + (cpu.runInstruction memory).duration } } := by
  have hcpu : { cpu with halted := false } = cpu := by rw [← hawake]
  rw [step_of_running hserved (not_idle_of_awake hawake memory), hcpu, hawake]
  rfl

/-! ### Waking up -/

/-- A processor that is not halted any more. -/
def wake (cpu : Cpu) : Cpu := { cpu with halted := false }

/-- A step that executes goes on as if the processor had never been halted. -/
theorem step_of_woken (hserved : cpu.served? memory = none)
    (hbusy : ¬ (cpu.halted = true ∧ memory.pending = 0)) :
    cpu.step memory =
      { cpu.wake.step memory with
        entries := (if cpu.halted then [.wokeUp] else []) ++ (cpu.wake.step memory).entries } := by
  have hwoken : cpu.wake.served? memory = none := hserved
  have hawake : cpu.wake.halted = false := rfl
  rw [step_of_running hserved hbusy, step_of_awake hawake hwoken]
  rfl

/-! ### The instruction of a step -/

/-- The next step executes an instruction; `fetched` is the processor that has fetched it. -/
structure Executes (cpu : Cpu) (memory : Memory) (instruction : Instruction) (fetched : Cpu) :
    Prop where
  unserved : cpu.served? memory = none
  busy : ¬ (cpu.halted = true ∧ memory.pending = 0)
  fetch : cpu.wake.fetchInstruction memory = (instruction, fetched)

theorem Executes.step_eq {instruction : Instruction} {fetched : Cpu}
    (h : cpu.Executes memory instruction fetched) :
    cpu.step memory =
      let outcome := fetched.execute memory instruction
      { cpu := { outcome.cpu.countDown with
          cycles := cpu.cycles + instruction.cycles fetched.flags }
        writes := outcome.writes
        entries :=
          (if cpu.halted then [.wokeUp] else []) ++ .executing cpu.pc instruction :: outcome.entries
        duration := instruction.cycles fetched.flags } := by
  have hawake : cpu.wake.halted = false := rfl
  have hserved : cpu.wake.served? memory = none := h.unserved
  rw [step_of_woken h.unserved h.busy, step_of_awake hawake hserved, runInstruction, h.fetch]
  rfl

/-- Fetching leaves the stack alone. -/
theorem Executes.sp_eq {instruction : Instruction} {fetched : Cpu}
    (h : cpu.Executes memory instruction fetched) : fetched.sp = cpu.sp := by
  have hfetched : fetched = (cpu.wake.fetchInstruction memory).2 := by rw [h.fetch]
  rw [hfetched, fetchInstruction]
  cases cpu.wake.haltBug <;> dsimp only <;> split <;> rfl

/-- With interrupts off, a processor that is awake executes what is at the program counter. -/
theorem executes_of_off (hawake : cpu.halted = false) (hoff : cpu.ime = false)
    (hbug : cpu.haltBug = false) {instruction : Instruction}
    (hdecode : Instruction.decode (memory.read cpu.pc) = instruction)
    (hplain : instruction ≠ .escape) :
    cpu.Executes memory instruction { cpu with pc := cpu.pc + 1 } where
  unserved := served?_of_off hoff memory
  busy := not_idle_of_awake hawake memory
  fetch := by
    have hwoken : cpu.wake = cpu := by rw [wake, ← hawake]
    rw [hwoken]
    exact fetchInstruction_of_plain hbug hdecode hplain

/-- The first step from power-on executes what is at the entry point. -/
theorem step_powerOn {instruction : Instruction}
    (hdecode : Instruction.decode (memory.read 0x0100) = instruction)
    (hplain : instruction ≠ .escape) :
    (powerOn.step memory).writes =
        ({ powerOn with pc := 0x0101 }.execute memory instruction).writes ∧
      (powerOn.step memory).duration = instruction.cycles powerOn.flags := by
  have hexecutes : powerOn.Executes memory instruction { powerOn with pc := 0x0101 } :=
    executes_of_off rfl rfl rfl hdecode hplain
  rw [hexecutes.step_eq]
  exact ⟨rfl, rfl⟩

/-! ### Counting -/

theorem pc_countDown (cpu : Cpu) : cpu.countDown.pc = cpu.pc := by
  unfold countDown
  split <;> rfl

theorem sp_countDown (cpu : Cpu) : cpu.countDown.sp = cpu.sp := by
  unfold countDown
  split <;> rfl

/-! ### Halts -/

theorem pc_halt (cpu : Cpu) (memory : Memory) : (cpu.halt memory).cpu.pc = cpu.pc := by
  unfold halt
  split <;> rfl

/-- A halt writes nothing, whether it happens or not. -/
theorem writes_runInstruction_of_halt (hhalt : (cpu.fetchInstruction memory).1 = .halt) :
    (cpu.runInstruction memory).writes = [] := by
  show ((cpu.fetchInstruction memory).2.execute memory (cpu.fetchInstruction memory).1).writes = []
  rw [hhalt, execute, halt]
  split <;> rfl

/-- A halt moves the program counter past its opcode, unless that is fetched again. -/
theorem pc_runInstruction_of_halt (hbug : cpu.haltBug = false)
    (hhalt : (cpu.fetchInstruction memory).1 = .halt) :
    (cpu.runInstruction memory).cpu.pc = cpu.pc + 1 := by
  have hdecode := decode_of_fetchInstruction_eq_halt hhalt
  have hfetch := fetchInstruction_of_plain hbug hdecode (by decide)
  rw [runInstruction, hfetch]
  dsimp only [execute]
  rw [pc_countDown, pc_halt]

/-! ### What the step reports, and the control state -/

theorem executed_step_of_awake (hawake : cpu.halted = false) (hbug : cpu.haltBug = false)
    (hserved : cpu.served? memory = none) :
    executed (cpu.step memory).entries = [(cpu.pc, memory.instructionAt cpu.pc)] := by
  rw [step_of_awake hawake hserved, ← fst_fetchInstruction hbug]
  exact executed_runInstruction cpu memory

theorem control_step_of_awake (hawake : cpu.halted = false)
    (hserved : cpu.served? memory = none) :
    (cpu.step memory).cpu.control =
      cpu.control.run (memory.pending != 0) (cpu.fetchInstruction memory).1 := by
  rw [step_of_awake hawake hserved]
  exact control_runInstruction cpu memory

/-! ## Steps on a bus -/

/-- A step of a processor whose writes go to the bus. -/
def stepOn (state : Cpu × Bus) : Cpu × Bus :=
  let step := state.1.step state.2.memory
  (step.cpu, (state.2.writeAll step.writes).value)

end Cpu

theorem Machine.stepCpu_eq_stepOn (machine : Machine) :
    (machine.stepCpu.value.1.cpu, machine.stepCpu.value.1.bus) =
      Cpu.stepOn (machine.cpu, machine.bus) :=
  rfl

end GameBoy
