import GameBoy.Machine
import GameBoy.Proofs.Bus
import GameBoy.Proofs.Cpu.Duration
import GameBoy.Proofs.Timer
import GameBoy.Proofs.Video.Position

/-!
# What one tick does

A tick is one step of the processor, whose writes go to the bus and whose duration is then fed to
the timer and to the video unit: `value_tick`.  Of the cells, registers and latches that keep the
time, each is changed by one of the three only, as long as the processor keeps off the registers
of the video unit; the lemmas of the last section say by how much.
-/

namespace GameBoy

/-- Whether a step sends a byte to an address. -/
def Step.writesTo (step : Step) (address : UInt16) : Bool :=
  step.writes.any (·.address = address)

namespace Machine

open Memory (SameOutside)

/-- The step that the processor takes next. -/
def nextStep (machine : Machine) : Step := machine.cpu.step machine.bus.memory

/-! ## The parts of a tick -/

/-- The bus after the step of the processor. -/
def writtenBus (machine : Machine) : Bus :=
  (machine.bus.writeAll machine.nextStep.writes).value

/-- The timer and the bus after both the processor and the timer. -/
def timed (machine : Machine) : Timer.Advanced :=
  (machine.timer.advance machine.writtenBus machine.nextStep.duration).value

/-- The video unit and memory after the tick. -/
def shown (machine : Machine) : Ppu.Run :=
  (machine.ppu.run machine.timed.bus.memory machine.nextStep.duration).value

theorem value_stepCpu (machine : Machine) :
    machine.stepCpu.value =
      ({ machine with cpu := machine.nextStep.cpu, bus := machine.writtenBus },
        machine.nextStep.duration) :=
  rfl

theorem value_advanceTimer (machine : Machine) (cycles : Nat) :
    (machine.advanceTimer cycles).value =
      { machine with
        timer := (machine.timer.advance machine.bus cycles).value.timer
        bus := (machine.timer.advance machine.bus cycles).value.bus } := by
  simp only [advanceTimer, Logged.value_bind]
  split <;> rfl

theorem value_advanceVideo (machine : Machine) (cycles : Nat) :
    (machine.advanceVideo cycles).value.1 =
      { machine with
        ppu := (machine.ppu.run machine.bus.memory cycles).value.ppu
        bus := { machine.bus with
          memory := (machine.ppu.run machine.bus.memory cycles).value.memory }
        frames := machine.frames +
          (machine.ppu.run machine.bus.memory cycles).value.frameDone.toNat } := by
  simp only [advanceVideo, Logged.value_bind]
  split
  · rename_i hdone
    rw [hdone]
    rfl
  · rename_i hdone
    rw [Bool.eq_false_iff.mpr hdone]
    rfl

theorem frameDone_advanceVideo (machine : Machine) (cycles : Nat) :
    (machine.advanceVideo cycles).value.2 =
      (machine.ppu.run machine.bus.memory cycles).value.frameDone := by
  simp only [advanceVideo, Logged.value_bind]
  split
  · rename_i hdone
    exact hdone.symm
  · rename_i hdone
    exact (Bool.eq_false_iff.mpr hdone).symm

theorem value_tick (machine : Machine) :
    machine.tick.value.1 =
      { cpu := machine.nextStep.cpu
        ppu := machine.shown.ppu
        timer := machine.timed.timer
        bus := { machine.timed.bus with memory := machine.shown.memory }
        frames := machine.frames + machine.shown.frameDone.toNat } := by
  unfold tick step
  simp only [Logged.value_bind, Logged.value_pure, value_stepCpu, value_advanceTimer,
    value_advanceVideo]
  rfl

theorem frameDone_tick (machine : Machine) :
    machine.tick.value.2 = machine.shown.frameDone := by
  unfold tick step
  simp only [Logged.value_bind, Logged.value_pure, value_stepCpu, value_advanceTimer,
    frameDone_advanceVideo]
  rfl

theorem frames_tick (machine : Machine) :
    machine.tick.value.1.frames = machine.frames + machine.tick.value.2.toNat := by
  rw [frameDone_tick, value_tick]

/-- A plain cell that the processor does not write to survives its step. -/
theorem read_writtenBus {machine : Machine} {address : UInt16} (h : Bus.Plain address)
    (hwrites : machine.nextStep.writesTo address = false) :
    machine.writtenBus.memory.read address = machine.bus.memory.read address := by
  apply Bus.read_writeAll_of_forall_ne _ _ h
  intro w hw heq
  exact List.any_eq_false.mp hwrites w hw (decide_eq_true heq)

theorem isDuration_nextStep (machine : Machine) : IsDuration machine.nextStep.duration :=
  Cpu.duration_step _ _

theorem cycles_nextStep (machine : Machine) :
    machine.nextStep.cpu.cycles = machine.cpu.cycles + machine.nextStep.duration :=
  Cpu.cycles_step _ _

/-! ## The divider -/

/-- The divider has counted the given cycles, starting from a given count. -/
structure DividerAt (machine : Machine) (base elapsed : Nat) : Prop where
  divider : (machine.bus.memory.read Address.divider).toNat = (base + elapsed / 256) % 256
  cycles : machine.timer.dividerCycles = elapsed % 256

/-- What a tick makes of the divider is up to the processor and the timer. -/
theorem dividerAt_tick {machine : Machine} {base elapsed : Nat}
    (hwritten : (machine.writtenBus.memory.read Address.divider).toNat =
      (base + elapsed / 256) % 256)
    (hcycles : (if machine.writtenBus.dividerReset then 0 else machine.timer.dividerCycles) =
      elapsed % 256) :
    machine.tick.value.1.DividerAt base (elapsed + machine.nextStep.duration) := by
  -- the cycles left over go with those of the step, and every 256 of them go to the register
  have hdue : machine.timer.elapsed machine.writtenBus machine.nextStep.duration =
      elapsed % 256 + machine.nextStep.duration := by
    rw [Timer.elapsed, hcycles]
  have hshown : machine.shown.memory.read Address.divider =
      machine.timed.bus.memory.read Address.divider :=
    Ppu.sameOutside_run _ _ _ Address.divider (by decide)
  rw [value_tick]
  constructor
  · show (machine.shown.memory.read Address.divider).toNat = _
    rw [hshown, timed, Timer.divider_advance, hdue, UInt8.toNat_add, hwritten,
      UInt8.toNat_ofNat']
    omega
  · show machine.timed.timer.dividerCycles = _
    rw [timed, Timer.dividerCycles_advance, hdue, Nat.mod_add_mod]

/-- A step that writes the divider starts its count afresh, with the cycles of the step itself. -/
theorem dividerAt_tick_of_write {machine : Machine}
    (hwrite : machine.nextStep.writesTo Address.divider = true) :
    machine.tick.value.1.DividerAt 0 machine.nextStep.duration := by
  have hlatch : machine.writtenBus.dividerReset = true := by
    rw [writtenBus, Bus.dividerReset_writeAll]
    exact Bool.or_eq_true_iff.mpr (Or.inr hwrite)
  have hcleared : machine.writtenBus.memory.read Address.divider = 0 := by
    rw [writtenBus, Bus.divider_writeAll]
    exact if_pos hwrite
  have hafter : machine.tick.value.1.DividerAt 0 (0 + machine.nextStep.duration) := by
    apply dividerAt_tick
    · rw [hcleared]
      rfl
    · rw [hlatch]
      rfl
  rwa [Nat.zero_add] at hafter

/-- Any other step lets the divider count on. -/
theorem DividerAt.tick {machine : Machine} {base elapsed : Nat}
    (h : machine.DividerAt base elapsed) (hlatch : machine.bus.dividerReset = false)
    (hwrite : machine.nextStep.writesTo Address.divider = false) :
    machine.tick.value.1.DividerAt base (elapsed + machine.nextStep.duration) := by
  have hclear : machine.writtenBus.dividerReset = false := by
    rw [writtenBus, Bus.dividerReset_writeAll, hlatch]
    exact hwrite
  have hkept : machine.writtenBus.memory.read Address.divider =
      machine.bus.memory.read Address.divider := by
    rw [writtenBus, Bus.divider_writeAll]
    exact if_neg (Bool.eq_false_iff.mp hwrite)
  apply dividerAt_tick
  · rw [hkept, h.divider]
  · rw [hclear]
    exact h.cycles

end Machine

end GameBoy
