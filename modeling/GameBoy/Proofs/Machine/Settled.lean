import GameBoy.Proofs.Bus.Keys
import GameBoy.Proofs.Machine.LockStep
import GameBoy.Proofs.Machine.Reachable
import GameBoy.Proofs.Timer.Exact
import GameBoy.Proofs.Video.Exact
import GameBoy.Proofs.Video.Settled
import GameBoy.Proofs.Video.Shades

/-!
# What holds after every tick

Much of the machine's state is kept twice, once in a unit and once in a cell that every program
may overwrite, or is bounded by a register that every program may change.  Every tick brings all of
it in line again, `settled_tick`.

Only part of that is needed to make the next tick do the same: `InRange` speaks of nothing that a
program can write to, except for the joypad register, which the bus guards.  It holds at the start
and is kept by every call of the host, `InRange.respond`, and with it every counter of the timer
and the video unit stays within 32 bits.
-/

namespace GameBoy.Machine

/-! ## In range -/

/-- What the host's calls keep, whatever the program does. -/
structure InRange (machine : Machine) : Prop where
  dot_lt : machine.ppu.dot < 456
  shaded : machine.ppu.frame.Shaded
  dividerCycles_lt : machine.timer.dividerCycles < 256
  counterCycles_lt : machine.timer.counterCycles < 1024
  joypadShown : machine.bus.JoypadShown

/-- The state after a tick: each unit is in range and agrees with its registers. -/
structure Settled (machine : Machine) : Prop extends InRange machine where
  video : machine.ppu.Settled machine.bus.memory
  counterCycles_lt_period :
    let control := machine.bus.memory.read Address.timerControl
    Timer.isEnabled control = true → machine.timer.counterCycles < Timer.period control
  dividerReset_eq : machine.bus.dividerReset = false

theorem inRange_start {image : ByteArray} (himage : image.size ≤ 0xFF00) :
    (Machine.start image).value.InRange := by
  have hkept : (Machine.start image).value.bus.memory.read Address.joypad =
      Bus.powerOn.value.memory.read Address.joypad := Memory.read_load_of_le _ himage
  exact ⟨(by decide : 0 < 456), Frame.shaded_blank, (by decide : 0 < 256), (by decide : 0 < 1024),
    hkept.trans Bus.joypadShown_powerOn⟩

variable {machine : Machine}

theorem InRange.press (h : machine.InRange) (key : Key) : (machine.press key).value.InRange :=
  ⟨h.dot_lt, h.shaded, h.dividerCycles_lt, h.counterCycles_lt, machine.bus.joypadShown_press key⟩

theorem InRange.release (h : machine.InRange) (key : Key) : (machine.release key).InRange :=
  ⟨h.dot_lt, h.shaded, h.dividerCycles_lt, h.counterCycles_lt, machine.bus.joypadShown_release key⟩

/-! ## Ticks -/

theorem joypad_tick (machine : Machine) :
    machine.tick.value.1.bus.joypad = machine.writtenBus.joypad := by
  have htimed : machine.timed.bus.joypad = machine.writtenBus.joypad := by
    rw [timed, Timer.bus_advance]
  rw [value_tick]
  exact htimed

/-- The joypad register is brought up to date by the bus, and neither timer nor video unit touch
it. -/
theorem joypadShown_tick (h : machine.bus.JoypadShown) : machine.tick.value.1.bus.JoypadShown := by
  have hwritten : machine.writtenBus.JoypadShown := h.writeAll machine.nextStep.writes
  unfold Bus.JoypadShown
  rw [machine.sameOutside_tick Address.joypad (by decide), joypad_tick]
  exact hwritten

/-- The timer keeps less than a period for later, of the timer register only if it is enabled;
otherwise it keeps what it had. -/
theorem counterCycles_tick {bound : Nat} (hbound : 1024 ≤ bound)
    (h : machine.timer.counterCycles < bound) :
    let after := machine.tick.value.1
    let control := after.bus.memory.read Address.timerControl
    after.timer.counterCycles < bound ∧
      (Timer.isEnabled control = true → after.timer.counterCycles < Timer.period control) := by
  intro after control
  have hcontrol : control = machine.writtenBus.memory.read Address.timerControl :=
    machine.sameOutside_tick Address.timerControl (by decide)
  -- what is left over is what was counted, or nothing after a reset
  have hleft : machine.timer.leftOver machine.writtenBus ≤ machine.timer.counterCycles := by
    unfold Timer.leftOver
    split <;> omega
  have hafter : after.timer = machine.timed.timer := congrArg Machine.timer machine.value_tick
  rw [hafter, hcontrol, timed, Timer.timer_advance]
  dsimp only
  split
  · have hlt := Nat.mod_lt (machine.timer.leftOver machine.writtenBus + machine.nextStep.duration)
      (Timer.period_pos (machine.writtenBus.memory.read Address.timerControl))
    exact ⟨Nat.lt_of_lt_of_le hlt (Nat.le_trans (Timer.period_le _) hbound), fun _ => hlt⟩
  · exact ⟨Nat.lt_of_le_of_lt hleft h, fun henabled => absurd henabled ‹_›⟩

theorem dividerCycles_timed_lt (machine : Machine) :
    machine.timed.timer.dividerCycles < 256 := by
  rw [timed, Timer.dividerCycles_advance]
  exact Nat.mod_lt _ (by decide)

theorem InRange.tick (h : machine.InRange) : machine.tick.value.1.Settled := by
  -- the video unit settles only if some time passes
  have hduration : 0 < machine.nextStep.duration := Cpu.duration_pos _ _
  have hvideo : machine.shown.ppu.Settled machine.shown.memory :=
    Ppu.settled_run h.dot_lt machine.timed.bus.memory hduration
  have hshaded : machine.shown.ppu.frame.Shaded :=
    Ppu.shaded_run h.shaded machine.timed.bus.memory machine.nextStep.duration
  have hdivider : machine.timed.timer.dividerCycles < 256 := dividerCycles_timed_lt machine
  have hreset : machine.timed.bus.dividerReset = false := Timer.dividerReset_advance _ _ _
  obtain ⟨hcounter, hperiod⟩ := counterCycles_tick (Nat.le_refl 1024) h.counterCycles_lt
  have hjoypad := joypadShown_tick h.joypadShown
  rw [value_tick] at hcounter hperiod hjoypad ⊢
  exact ⟨⟨hvideo.dot_lt, hshaded, hdivider, hcounter, hjoypad⟩, hvideo, hperiod, hreset⟩

/-- A step takes far fewer cycles than counters half full have room for. -/
theorem exact_of_lt (hdot : machine.ppu.dot < 456)
    (hdivider : machine.timer.dividerCycles < 0x80000000)
    (hcounter : machine.timer.counterCycles < 0x80000000) :
    machine.timer.advance? machine.writtenBus machine.nextStep.duration = some machine.timed ∧
      machine.ppu.run? machine.timed.bus.memory machine.nextStep.duration = some machine.shown := by
  have hduration := machine.isDuration_nextStep.le
  exact ⟨(Timer.Fits.of_lt (by omega) (by omega) _).advance?_eq, Ppu.run?_eq_some hdot _ _⟩

theorem InRange.exact_tick (h : machine.InRange) :
    machine.timer.advance? machine.writtenBus machine.nextStep.duration = some machine.timed ∧
      machine.ppu.run? machine.timed.bus.memory machine.nextStep.duration = some machine.shown := by
  have hdivider := h.dividerCycles_lt
  have hcounter := h.counterCycles_lt
  exact exact_of_lt h.dot_lt (by omega) (by omega)

/-! ## All runs -/

theorem InRange.respond (h : machine.InRange) (event : Event) :
    (machine.respond event).InRange := by
  cases event with
  | tick => exact h.tick.toInRange
  | press key => exact h.press key
  | release key => exact h.release key

theorem InRange.foldl_respond (h : machine.InRange) (events : List Event) :
    (events.foldl Machine.respond machine).InRange := by
  induction events generalizing machine with
  | nil => exact h
  | cons event rest ih => exact ih (h.respond event)

/-- **What holds after every tick.**  From an image that leaves the registers alone, whatever calls
the host makes and whatever the program writes, a tick leaves every unit in range and in line with
its registers, and on the way no counter of the timer or the video unit leaves its 32 bits. -/
theorem settled_tick {image : ByteArray} (himage : image.size ≤ 0xFF00) (events : List Event) :
    let machine := events.foldl respond (Machine.start image).value
    (machine.respond .tick).Settled ∧
      machine.timer.advance? machine.writtenBus machine.nextStep.duration = some machine.timed ∧
      machine.ppu.run? machine.timed.bus.memory machine.nextStep.duration = some machine.shown := by
  intro machine
  have hrange : machine.InRange := (inRange_start himage).foldl_respond events
  exact ⟨hrange.tick, hrange.exact_tick⟩

/-- The first tick raises the latch of the divider and takes it down again. -/
theorem settled_tick_dividerProgram :
    let machine := (Machine.start dividerProgram).value
    dividerProgram.size ≤ 0xFF00 ∧ machine.writtenBus.dividerReset = true ∧
      (machine.respond .tick).Settled ∧
      machine.timer.advance? machine.writtenBus 12 = some machine.timed ∧
      machine.ppu.run? machine.timed.bus.memory 12 = some machine.shown := by
  dsimp only
  obtain ⟨hwrites, hduration⟩ := nextStep_dividerProgram
  have hlatch : (Machine.start dividerProgram).value.writtenBus.dividerReset = true := by
    rw [writtenBus, Bus.dividerReset_writeAll, hwrites]
    rfl
  obtain ⟨hsettled, htimer, hvideo⟩ := settled_tick size_dividerProgram_le []
  rw [List.foldl_nil] at hsettled htimer hvideo
  rw [hduration] at htimer hvideo
  exact ⟨size_dividerProgram_le, hlatch, hsettled, htimer, hvideo⟩

end GameBoy.Machine
