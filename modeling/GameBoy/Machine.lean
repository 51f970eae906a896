import GameBoy.Cpu.Step
import GameBoy.Timer
import GameBoy.Video.Ppu

/-!
# The machine

Processor, timer and video unit move in lock step: each step of the processor sends its writes to
the bus, and its cycles then advance the timer and the video unit.  `Machine.tick` is that unit
of work; `Machine.runFrame` ticks until a frame is done, or until the cycles of a whole frame have
gone by without one.
-/

namespace GameBoy

structure Machine where
  cpu : Cpu
  ppu : Ppu
  timer : Timer
  bus : Bus
  /-- The number of frames completed. -/
  frames : Nat

namespace Machine

def powerOn : Logged Machine := do
  let bus ← Bus.powerOn
  pure { cpu := .powerOn, ppu := .powerOn, timer := .powerOn, bus, frames := 0 }

/-- Puts an image at the bottom of memory. -/
def load (machine : Machine) (image : ByteArray) : Logged Machine :=
  match machine with
  | ⟨cpu, ppu, timer, bus, frames⟩ => do
    let bus ← bus.load image
    pure ⟨cpu, ppu, timer, bus, frames⟩

/-- A machine after power-on with an image in place. -/
def start (image : ByteArray) : Logged Machine := do
  let machine ← powerOn
  machine.load image

/-! ## Steps and ticks -/

/-- One step of the processor, whose writes go to the bus; its duration is returned. -/
def stepCpu (machine : Machine) : Logged (Machine × Nat) :=
  match machine with
  | ⟨cpu, ppu, timer, bus, frames⟩ =>
    match cpu.step bus.memory with
    | ⟨⟨cpu, writes, entries⟩, duration⟩ =>
      match bus.writeAll writes with
      | ⟨bus, journal⟩ =>
        { value := (⟨cpu, ppu, timer, bus, frames⟩, duration)
          journal := entries.toArray ++ journal }

/-- Feeds cycles to the timer. -/
def advanceTimer (machine : Machine) (cycles : Nat) : Logged Machine :=
  match machine with
  | ⟨cpu, ppu, timer, bus, frames⟩ => do
    let ⟨timer, bus, overflowed⟩ ← timer.advance bus cycles
    if overflowed then
      Logged.note .timerOverflow
    pure ⟨cpu, ppu, timer, bus, frames⟩

/-- Feeds cycles to the video unit, and says whether a frame was completed. -/
def advanceVideo (machine : Machine) (cycles : Nat) : Logged (Machine × Bool) :=
  match machine with
  | ⟨cpu, ppu, timer, ⟨memory, joypad, latch, serial⟩, frames⟩ => do
    let ⟨ppu, memory, frameDone⟩ ← ppu.run memory cycles
    if frameDone then
      Logged.note (.frameDone (frames + 1))
      pure (⟨cpu, ppu, timer, ⟨memory, joypad, latch, serial⟩, frames + 1⟩, true)
    else
      pure (⟨cpu, ppu, timer, ⟨memory, joypad, latch, serial⟩, frames⟩, false)

/-- One step of the processor and the timer. -/
def step (machine : Machine) : Logged (Machine × Nat) := do
  let (machine, duration) ← machine.stepCpu
  let machine ← machine.advanceTimer duration
  pure (machine, duration)

/-- One step of the whole machine.  Says whether a frame was completed. -/
def tick (machine : Machine) : Logged (Machine × Bool) := do
  let (machine, duration) ← machine.step
  machine.advanceVideo duration

/-! ## Time goes by -/

theorem cycles_stepCpu (machine : Machine) :
    machine.cpu.cycles < machine.stepCpu.value.1.cpu.cycles := by
  have hduration := Cpu.duration_pos machine.cpu machine.bus.memory
  have hcycles := Cpu.cycles_step machine.cpu machine.bus.memory
  change machine.cpu.cycles < (machine.cpu.step machine.bus.memory).cpu.cycles
  omega

@[simp] theorem cpu_advanceTimer (machine : Machine) (cycles : Nat) :
    (machine.advanceTimer cycles).value.cpu = machine.cpu := by
  simp only [advanceTimer, Logged.value_bind]
  split <;> rfl

@[simp] theorem cpu_advanceVideo (machine : Machine) (cycles : Nat) :
    (machine.advanceVideo cycles).value.1.cpu = machine.cpu := by
  simp only [advanceVideo, Logged.value_bind]
  split <;> rfl

theorem cycles_tick (machine : Machine) :
    machine.cpu.cycles < machine.tick.value.1.cpu.cycles := by
  simpa [tick, step] using machine.cycles_stepCpu

/-! ## Frames -/

/-- The clock cycles of a frame. -/
def cyclesPerFrame : Nat := 456 * 154

/-- Ticks until a frame is completed, or until the cycle counter has passed `limit`. -/
def runUntil (limit : Nat) (machine : Logged Machine) : Logged (Machine × Bool) :=
  if machine.value.cpu.cycles ≤ limit then
    let ticked := machine >>= tick
    if ticked.value.2 then ticked else runUntil limit (Prod.fst <$> ticked)
  else
    (·, false) <$> machine
termination_by limit + 1 - machine.value.cpu.cycles
decreasing_by
  rename_i hbudget _
  have := machine.value.cycles_tick
  simp only [Logged.value_map, Logged.value_bind]
  omega

/-- Ticks until a frame is completed.  Gives up when more cycles than those of a frame have gone
by, as they do while the display is off. -/
def runFrame (machine : Machine) : Logged (Machine × Bool) :=
  runUntil (machine.cpu.cycles + cyclesPerFrame) (pure machine)

/-! ## Keys -/

def press (machine : Machine) (key : Key) : Logged Machine :=
  match machine with
  | ⟨cpu, ppu, timer, bus, frames⟩ => do
    let bus ← bus.press key
    pure ⟨cpu, ppu, timer, bus, frames⟩

def release (machine : Machine) (key : Key) : Machine :=
  { machine with bus := machine.bus.release key }

end Machine

end GameBoy
