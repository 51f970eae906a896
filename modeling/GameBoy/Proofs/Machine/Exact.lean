import GameBoy.Proofs.Machine.Settled

/-!
# Ticks in counters of limited width

The cycles of the processor and the frames are words of 64 bits, on top of the words of 32 bits in
the timer and the video unit.  `tick?` is a tick in these terms, operation for operation, and fails
where a counter would leave its range.  As long as the counters of the timer and the video unit are
in the lower half of theirs, `HasRoom`, which every tick keeps, and there is room for the cycles and
frames, it returns what `tick` returns: `HasRoom.tick?_eq`.
-/

namespace GameBoy.Machine

open Width

/-! ## One tick -/

/-- A tick in counters of limited width. -/
def tick? (machine : Machine) : Option (Machine × Bool) := do
  let ⟨⟨cpu, writes, _⟩, duration⟩ ← machine.cpu.step? machine.bus.memory
  let ⟨timer, ⟨memory, joypad, latch, serial⟩, _⟩ ←
    machine.timer.advance? (machine.bus.writeAll writes).value duration
  let ⟨ppu, memory, frameDone⟩ ← machine.ppu.run? memory duration
  let frames ← if frameDone then sum? 64 machine.frames 1 else some machine.frames
  some (⟨cpu, ppu, timer, ⟨memory, joypad, latch, serial⟩, frames⟩, frameDone)

/-- The counters of the timer and the video unit are far from their limits. -/
structure HasRoom (machine : Machine) : Prop where
  dot_lt : machine.ppu.dot < 456
  dividerCycles_lt : machine.timer.dividerCycles < 0x80000000
  counterCycles_lt : machine.timer.counterCycles < 0x80000000

variable {machine : Machine}

theorem HasRoom.tick (h : machine.HasRoom) : machine.tick.value.1.HasRoom := by
  have hduration : 0 < machine.nextStep.duration := Cpu.duration_pos _ _
  have hvideo := Ppu.settled_run h.dot_lt machine.timed.bus.memory hduration
  have hdivider := dividerCycles_timed_lt machine
  obtain ⟨hcounter, -⟩ := counterCycles_tick (by decide) h.counterCycles_lt
  rw [value_tick] at hcounter ⊢
  exact ⟨hvideo.dot_lt, Nat.lt_trans hdivider (by decide), hcounter⟩

/-- As long as cycles and frames have room as well, a tick in limited counters is a tick. -/
theorem HasRoom.tick?_eq (h : machine.HasRoom) (hcycles : machine.cpu.cycles + 24 < 2 ^ 64)
    (hframes : machine.frames + 1 < 2 ^ 64) : machine.tick? = some machine.tick.value := by
  have hduration := machine.isDuration_nextStep.le
  have hfits : machine.cpu.cycles + machine.nextStep.duration < 2 ^ 64 := by omega
  have hstep : machine.cpu.step? machine.bus.memory = some machine.nextStep :=
    Cpu.step?_eq_some hfits
  obtain ⟨htimer, hvideo⟩ := exact_of_lt h.dot_lt h.dividerCycles_lt h.counterCycles_lt
  have hadvanced : machine.timer.advance? (machine.bus.writeAll machine.nextStep.writes).value
      machine.nextStep.duration = some machine.timed := htimer
  -- the flag of a tick is that of the video unit
  have hticked : machine.tick.value = (machine.tick.value.1, machine.shown.frameDone) := by
    rw [← frameDone_tick]
  rw [hticked, value_tick, tick?]
  simp only [Option.bind_eq_bind, hstep, Option.bind_some, hadvanced, hvideo]
  cases machine.shown.frameDone with
  | true => rw [if_pos rfl, sum?_eq_some hframes]; rfl
  | false => rfl

end GameBoy.Machine
