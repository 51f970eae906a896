import Mathlib.Algebra.Order.Floor.Div
import GameBoy.Proofs.Cpu.Running
import GameBoy.Proofs.Machine.LockStep
import GameBoy.Proofs.Machine.Reachable
import GameBoy.Proofs.Timer.Counts

/-!
# How fast the timer register counts

A step counts the timer register as often as the selected period fits into its cycles and those left
over from earlier steps.  What is left over is less than the period at which it was left over, and
that may have been a longer one: a program that selects a shorter period is paid out, in the step
that selects it, all cycles left over under the longer one.

`Clocked` follows a run and keeps the period of the last count; cycles are left over only below
it, `Clocked.counterCycles_lt`.  `counts_of_clocked` gives the number of counts of every step, and
says when it is no more than the cycles of the step alone would earn.
-/

namespace GameBoy.Machine

open Memory (SameOutside)

/-! ## Runs -/

/-- The period at which cycles may be left over after the next step, given the one before: that of
the selected rate if the timer register is enabled, and none if the divider was just written. -/
def lastPeriod (machine : Machine) (before : Nat) : Nat :=
  let control := machine.writtenBus.memory.read Address.timerControl
  if Timer.isEnabled control then Timer.period control
  else if machine.writtenBus.dividerReset then 1
  else before

/-- The machines that come about by steps of the processor and the timer, with the video unit and
the keys in between, and the period at which cycles may be left over. -/
inductive Clocked : Machine → Nat → Prop
  | initial {machine : Machine} : Initial machine → Clocked machine 1
  | step {machine : Machine} {before : Nat} :
      Clocked machine before → Clocked machine.step.value.1 (machine.lastPeriod before)
  | video {machine : Machine} {before : Nat} (cycles : Nat) :
      Clocked machine before → Clocked (machine.advanceVideo cycles).value.1 before
  | press {machine : Machine} {before : Nat} (key : Key) :
      Clocked machine before → Clocked (machine.press key).value before
  | release {machine : Machine} {before : Nat} (key : Key) :
      Clocked machine before → Clocked (machine.release key) before

variable {machine : Machine} {before : Nat}

theorem value_step (machine : Machine) :
    machine.step.value.1 =
      { machine with
        cpu := machine.nextStep.cpu
        timer := machine.timed.timer
        bus := machine.timed.bus } := by
  unfold step
  simp only [Logged.value_bind, Logged.value_pure, value_stepCpu, value_advanceTimer]
  rfl

/-! ## What is left over -/

theorem leftOver_lt (hpos : 0 < before) (hleft : machine.timer.counterCycles < before) :
    machine.timer.leftOver machine.writtenBus < before := by
  unfold Timer.leftOver
  split
  · exact hpos
  · exact hleft

/-- Fewer cycles are left over than the period at which they were. -/
theorem Clocked.counterCycles_lt (h : Clocked machine before) :
    machine.timer.counterCycles < before ∧ before ≤ 1024 := by
  -- by induction on the run: an enabled timer keeps a remainder, any other what it had
  induction h with
  | initial hinitial => cases hinitial <;> exact ⟨Nat.one_pos, by decide⟩
  | @step machine before _ ih =>
      have hleft := leftOver_lt (Nat.zero_lt_of_lt ih.1) ih.1
      rw [value_step, timed, Timer.timer_advance, lastPeriod]
      dsimp only
      split
      · exact ⟨Nat.mod_lt _ (Timer.period_pos _), Timer.period_le _⟩
      · split
        · rename_i hreset
          rw [Timer.leftOver, if_pos hreset]
          exact ⟨Nat.one_pos, by decide⟩
        · exact ⟨hleft, ih.2⟩
  | video cycles _ ih =>
      rw [value_advanceVideo]
      exact ih
  | press key _ ih => exact ih
  | release key _ ih => exact ih

/-- What is left over below the period adds one count at most. -/
theorem div_le_ceilDiv {left cycles period : Nat} (hleft : left < period) :
    (left + cycles) / period ≤ cycles ⌈/⌉ period := by
  have hpos : 0 < period := Nat.zero_lt_of_lt hleft
  rw [Nat.ceilDiv_eq_add_pred_div]
  exact Nat.div_le_div_right (by omega)

theorem div_le_ceilDiv_iff {left cycles period : Nat} (hpos : 0 < period) :
    (left + cycles) / period ≤ cycles ⌈/⌉ period ↔
      left + cycles < period * (cycles ⌈/⌉ period + 1) := by
  rw [← Nat.lt_succ_iff, Nat.div_lt_iff_lt_mul hpos, Nat.mul_comm]

/-- **The rate of the timer register.**  With the register enabled, a step counts it once for each
period that fits into the cycles left over and those of the step.  That is no more than the cycles
of the step alone would earn, rounded up, as long as the selected period is not shorter than the
one at which cycles were left over; if it is, the step counts more often exactly if what was left
over is enough to fill another period. -/
theorem counts_of_clocked (h : Clocked machine before) :
    let memory := machine.writtenBus.memory
    let control := memory.read Address.timerControl
    let period := Timer.period control
    let cycles := machine.nextStep.duration
    let left := machine.timer.leftOver machine.writtenBus
    let n := machine.timer.counts machine.writtenBus cycles
    machine.step.value.1.bus.memory.read Address.timerCounter =
        (Timer.nextCount (memory.read Address.timerModulo))^[n]
          (memory.read Address.timerCounter) ∧
      (Timer.isEnabled control = false → n = 0) ∧
      (Timer.isEnabled control = true →
        left < before ∧ before ≤ 1024 ∧ n = (left + cycles) / period ∧
        (before ≤ period → n ≤ cycles ⌈/⌉ period) ∧
        (n ≤ cycles ⌈/⌉ period ↔ left + cycles < period * (cycles ⌈/⌉ period + 1))) := by
  intro memory control period cycles left n
  obtain ⟨hcounter, hbefore⟩ := h.counterCycles_lt
  have hleft : left < before := leftOver_lt (Nat.zero_lt_of_lt hcounter) hcounter
  refine ⟨?_, fun hdisabled => ?_, fun henabled => ?_⟩
  · rw [value_step]
    exact Timer.timerCounter_advance _ _ _
  · exact if_neg (Bool.eq_false_iff.mp hdisabled)
  · -- enabled, the timer counts the whole periods in what was left over and what is new
    have hn : n = (left + cycles) / period := if_pos henabled
    rw [hn]
    exact ⟨hleft, hbefore, rfl, fun hle => div_le_ceilDiv (Nat.lt_of_lt_of_le hleft hle),
      div_le_ceilDiv_iff (Timer.period_pos control)⟩

/-! ## A burst -/

/-- An image that starts the timer register at its longest period and then selects the shortest:
LD A,4 and LDH (07),A, then the same with 5. -/
def burstProgram : ByteArray :=
  ⟨Array.replicate 256 0 ++ #[0x3E, 0x04, 0xE0, 0x07, 0x3E, 0x05, 0xE0, 0x07]⟩

theorem size_burstProgram : burstProgram.size = 264 := by
  simp [burstProgram, ByteArray.size]

/-- The program is in place, the processor is at the given place in it with the given byte in A, and
the given cycles are left over under the given control byte. -/
structure Bursting (machine : Machine) (pc : UInt16) (a control : UInt8) (left : Nat) : Prop where
  cpu : ∃ cycles, machine.cpu = { Cpu.powerOn with pc, a, cycles }
  program : SameOutside
    [Address.divider, Address.timerCounter, Address.timerControl, Address.interruptRequest]
    (Machine.start burstProgram).value.bus.memory machine.bus.memory
  control : machine.bus.memory.read Address.timerControl = control
  latch : machine.bus.dividerReset = false
  left : machine.timer.counterCycles = left

theorem bursting_start : Bursting (Machine.start burstProgram).value 0x0100 0x01 0xF8 0 := by
  have hcontrol : (Machine.start burstProgram).value.bus.memory.read Address.timerControl = 0xF8 :=
    read_start (by rw [size_burstProgram]; decide) (by decide)
  exact ⟨⟨0, rfl⟩, .refl _, hcontrol, rfl, rfl⟩

theorem read_burstProgram {address : UInt16} {i : Nat} (hi : i < 8)
    (haddress : address.toNat = 256 + i) :
    (Machine.start burstProgram).value.bus.memory.read address =
      #[0x3E, 0x04, 0xE0, 0x07, 0x3E, 0x05, 0xE0, 0x07][i] := by
  rw [memory_start]
  exact Memory.read_load_code _ hi haddress

theorem Bursting.read {pc : UInt16} {a control : UInt8} {left : Nat}
    (h : Bursting machine pc a control left) {address : UInt16} {i : Nat} (hi : i < 8)
    (haddress : address.toNat = 256 + i) :
    machine.bus.memory.read address =
      #[0x3E, 0x04, 0xE0, 0x07, 0x3E, 0x05, 0xE0, 0x07][i] := by
  rw [← read_burstProgram hi haddress]
  apply h.program
  intro hmem
  -- the cells that change lie above the program
  have hle : 0xFF00 ≤ address.toNat := by
    simp only [List.mem_cons, List.not_mem_nil, or_false] at hmem
    rcases hmem with rfl | rfl | rfl | rfl <;> decide
  omega

variable {pc : UInt16} {a control : UInt8} {left : Nat}

/-- A step of the program counts its cycles at the rate that is selected after its writes. -/
theorem Bursting.step (h : Bursting machine pc a control left) {pc' : UInt16} {a' control' : UInt8}
    (hcpu : ∃ cycles, machine.nextStep.cpu = { Cpu.powerOn with pc := pc', a := a', cycles })
    (hwrites : SameOutside
      [Address.divider, Address.timerCounter, Address.timerControl, Address.interruptRequest]
      machine.bus.memory machine.writtenBus.memory)
    (hlatch : machine.writtenBus.dividerReset = false)
    (hcontrol : machine.writtenBus.memory.read Address.timerControl = control') :
    Bursting machine.step.value.1 pc' a' control'
      (if Timer.isEnabled control' then
        (left + machine.nextStep.duration) % Timer.period control' else left) := by
  rw [value_step, timed]
  refine ⟨hcpu, ?_, ?_, Timer.dividerReset_advance _ _ _, ?_⟩
  · exact (h.program.trans hwrites).trans ((Timer.sameOutside_advance _ _ _).mono (by decide))
  · rw [← hcontrol]
    exact Timer.control_advance _ _ _
  · dsimp only
    rw [Timer.timer_advance, Timer.leftOver, hlatch, h.left, hcontrol]
    rfl

theorem Bursting.executes (h : Bursting machine pc a control left) {instruction : Instruction}
    (hdecode : Instruction.decode (machine.bus.memory.read pc) = instruction)
    (hplain : instruction ≠ .escape) :
    machine.cpu.Executes machine.bus.memory instruction
      { Cpu.powerOn with pc := pc + 1, a, cycles := machine.cpu.cycles } := by
  obtain ⟨cycles, hcpu⟩ := h.cpu
  rw [hcpu]
  exact Cpu.executes_of_off rfl rfl rfl hdecode hplain

/-- LD A with an immediate byte. -/
theorem Bursting.load (h : Bursting machine pc a control left)
    (hopcode : machine.bus.memory.read pc = 0x3E) {byte : UInt8}
    (hbyte : machine.bus.memory.read (pc + 1) = byte) :
    Bursting machine.step.value.1 (pc + 1 + 1) byte control
      (if Timer.isEnabled control then (left + 8) % Timer.period control else left) := by
  have hdecode : Instruction.decode (machine.bus.memory.read pc) =
      .load (.register .a) .immediate := by
    rw [hopcode]
    rfl
  have hexecutes := h.executes hdecode Instruction.noConfusion
  have hstep : machine.nextStep.cpu =
        { Cpu.powerOn with pc := pc + 1 + 1, a := byte, cycles := machine.cpu.cycles + 8 } ∧
      machine.nextStep.writes = [] ∧ machine.nextStep.duration = 8 := by
    rw [nextStep, hexecutes.step_eq, ← hbyte]
    exact ⟨rfl, rfl, rfl⟩
  obtain ⟨hafter, hwrites, hduration⟩ := hstep
  have hbus : machine.writtenBus = machine.bus := by
    rw [writtenBus, hwrites]
    rfl
  rw [← hduration]
  apply h.step ⟨_, hafter⟩
  · rw [hbus]
    exact .refl _
  · rw [hbus]
    exact h.latch
  · rw [hbus]
    exact h.control

/-- LDH (07),A stores A in the control register of the timer. -/
theorem Bursting.nextStep_store (h : Bursting machine pc a control left)
    (hopcode : machine.bus.memory.read pc = 0xE0)
    (hbyte : machine.bus.memory.read (pc + 1) = 0x07) :
    (∃ cycles, machine.nextStep.cpu = { Cpu.powerOn with pc := pc + 1 + 1, a, cycles }) ∧
      machine.writtenBus.memory = machine.bus.memory.store Address.timerControl a ∧
      machine.writtenBus.dividerReset = false ∧ machine.nextStep.duration = 12 := by
  have hdecode : Instruction.decode (machine.bus.memory.read pc) = .load .high (.register .a) := by
    rw [hopcode]
    rfl
  have hexecutes := h.executes hdecode Instruction.noConfusion
  have hstep : machine.nextStep.cpu =
        { Cpu.powerOn with pc := pc + 1 + 1, a, cycles := machine.cpu.cycles + 12 } ∧
      machine.nextStep.writes = [⟨Cpu.highCell (machine.bus.memory.read (pc + 1)), a⟩] ∧
      machine.nextStep.duration = 12 := by
    rw [nextStep, hexecutes.step_eq]
    exact ⟨rfl, rfl, rfl⟩
  obtain ⟨hafter, hwrites, hduration⟩ := hstep
  have hbus : machine.writtenBus =
      { machine.bus with memory := machine.bus.memory.store Address.timerControl a } := by
    rw [writtenBus, hwrites, hbyte]
    rfl
  rw [hbus]
  exact ⟨⟨_, hafter⟩, rfl, h.latch, hduration⟩

theorem Bursting.store (h : Bursting machine pc a control left)
    (hopcode : machine.bus.memory.read pc = 0xE0)
    (hbyte : machine.bus.memory.read (pc + 1) = 0x07) :
    Bursting machine.step.value.1 (pc + 1 + 1) a a
      (if Timer.isEnabled a then (left + 12) % Timer.period a else left) := by
  obtain ⟨hcpu, hmemory, hlatch, hduration⟩ := h.nextStep_store hopcode hbyte
  rw [← hduration]
  apply h.step hcpu _ hlatch
  · rw [hmemory, Memory.read_store_self]
  · rw [hmemory]
    exact .store _ (by decide) a

/-- The fourth step of the program takes less than one period of those that it selects, and counts
twice. -/
theorem counts_of_clocked_burst :
    ∃ machine before, Clocked machine before ∧
      machine.writtenBus.memory.read Address.timerControl = 0x05 ∧
      machine.nextStep.duration = 12 ∧
      machine.timer.counts machine.writtenBus machine.nextStep.duration = 2 ∧
      ¬ machine.timer.counts machine.writtenBus machine.nextStep.duration ≤
        machine.nextStep.duration ⌈/⌉ Timer.period 0x05 := by
  have hstart := bursting_start
  have hinitial := Clocked.initial (Initial.start burstProgram)
  generalize (Machine.start burstProgram).value = start at hstart hinitial
  have hfirst : Bursting _ 0x0102 0x04 0xF8 0 :=
    hstart.load (hstart.read (i := 0) (by decide) rfl) (hstart.read (i := 1) (by decide) rfl)
  have hsecond : Bursting _ 0x0104 0x04 0x04 12 :=
    hfirst.store (hfirst.read (i := 2) (by decide) rfl) (hfirst.read (i := 3) (by decide) rfl)
  -- three instructions later 20 cycles are left over under the long period
  have hthird : Bursting _ 0x0106 0x05 0x04 20 :=
    hsecond.load (hsecond.read (i := 4) (by decide) rfl) (hsecond.read (i := 5) (by decide) rfl)
  have hclocked := hinitial.step.step.step
  generalize start.step.value.1.step.value.1.step.value.1 = machine at hthird hclocked
  have hopcode : machine.bus.memory.read 0x0106 = 0xE0 := hthird.read (i := 6) (by decide) rfl
  have hbyte : machine.bus.memory.read 0x0107 = 0x07 := hthird.read (i := 7) (by decide) rfl
  obtain ⟨-, hmemory, hlatch, hduration⟩ := hthird.nextStep_store hopcode hbyte
  have hcontrol : machine.writtenBus.memory.read Address.timerControl = 0x05 := by
    rw [hmemory, Memory.read_store_self]
  have hleft : machine.timer.leftOver machine.writtenBus = 20 := by
    rw [Timer.leftOver, hlatch, hthird.left]
    rfl
  obtain ⟨-, -, hcounts⟩ := counts_of_clocked hclocked
  obtain ⟨-, -, hn, -, hexact⟩ := hcounts (by rw [hcontrol]; rfl)
  rw [hcontrol, hduration, hleft] at hn hexact
  refine ⟨machine, _, hclocked, hcontrol, hduration, ?_, ?_⟩
  · rw [hduration, hn]
    rfl
  · rw [hduration, hexact]
    decide

end GameBoy.Machine
