import GameBoy.Proofs.Timer.ClosedForm
import GameBoy.Proofs.Video.Exact
import GameBoy.Proofs.Video.Position
import GameBoy.Proofs.Video.Unseen

/-!
# The timer and the video unit in either order

The machine feeds the cycles of a step to the timer first and to the video unit afterwards.  Both
make requests, any number of them, in one register, and each loops over registers of its own.  The
video unit does not notice what the timer has done, `Unseen.run`; and what the timer reads, the
latch, the control byte and its own registers, the video unit does not write,
`advance_of_sameOutside`.  So either order comes to the same, `timerFirst_eq_videoFirst`, and in
counters of 32 bits neither fails unless the other does: `either_order`.
-/

namespace GameBoy

open Memory (SameOutside)

/-- The two units and the bus after cycles have been fed to both, and what each of them says. -/
structure Fed where
  timer : Timer
  ppu : Ppu
  bus : Bus
  overflowed : Bool
  frameDone : Bool

namespace Fed

/-! ## Two orders -/

section

variable (timer : Timer) (ppu : Ppu) (bus : Bus) (timerCycles videoCycles : Nat)

/-- The timer takes its cycles, and then the video unit does. -/
def timerFirst : Fed :=
  let advanced := (timer.advance bus timerCycles).value
  let run := (ppu.run advanced.bus.memory videoCycles).value
  { timer := advanced.timer
    ppu := run.ppu
    bus := { advanced.bus with memory := run.memory }
    overflowed := advanced.overflowed
    frameDone := run.frameDone }

/-- The video unit takes its cycles, and then the timer does. -/
def videoFirst : Fed :=
  let run := (ppu.run bus.memory videoCycles).value
  let advanced := (timer.advance { bus with memory := run.memory } timerCycles).value
  { timer := advanced.timer
    ppu := run.ppu
    bus := advanced.bus
    overflowed := advanced.overflowed
    frameDone := run.frameDone }

/-- The timer first, in counters of 32 bits. -/
def timerFirst? : Option Fed := do
  let advanced ← timer.advance? bus timerCycles
  let run ← ppu.run? advanced.bus.memory videoCycles
  some
    { timer := advanced.timer
      ppu := run.ppu
      bus := { advanced.bus with memory := run.memory }
      overflowed := advanced.overflowed
      frameDone := run.frameDone }

/-- The video unit first, in counters of 32 bits. -/
def videoFirst? : Option Fed := do
  let run ← ppu.run? bus.memory videoCycles
  let advanced ← timer.advance? { bus with memory := run.memory } timerCycles
  some
    { timer := advanced.timer
      ppu := run.ppu
      bus := advanced.bus
      overflowed := advanced.overflowed
      frameDone := run.frameDone }

end

variable {timer : Timer} {ppu : Ppu} {bus : Bus} {timerCycles : Nat}

/-! ### The timer after the video unit -/

section

variable {memory : Memory} (hsame : SameOutside Ppu.videoCells bus.memory memory)
include hsame

theorem fits_of_sameOutside (h : timer.Fits bus timerCycles) :
    timer.Fits { bus with memory } timerCycles := by
  have hcontrol : memory.read Address.timerControl = bus.memory.read Address.timerControl :=
    hsame _ (by decide)
  refine ⟨h.elapsed_lt, fun henabled => h.due_lt ?_⟩
  rwa [← hcontrol]

/-- The cells that decide how the timer counts are not among those of the video unit. -/
theorem advance_of_sameOutside (timer : Timer) (timerCycles : Nat) :
    (timer.advance { bus with memory } timerCycles).value =
      { timer := (timer.advance bus timerCycles).value.timer
        bus := { bus with
          memory := timer.effect bus timerCycles memory
          dividerReset := false }
        overflowed := (timer.advance bus timerCycles).value.overflowed } := by
  -- the bus is named, so that its fields are read off and the rest stays folded
  generalize hseen : ({ bus with memory } : Bus) = seen
  have hlatch : seen.dividerReset = bus.dividerReset := by rw [← hseen]
  have hmemory : seen.memory = memory := by rw [← hseen]
  have hcontrol : seen.memory.read Address.timerControl =
      bus.memory.read Address.timerControl := by
    rw [hmemory]
    exact hsame _ (by decide)
  have hcounter : seen.memory.read Address.timerCounter =
      bus.memory.read Address.timerCounter := by
    rw [hmemory]
    exact hsame _ (by decide)
  have hoverflowed : (timer.advance seen timerCycles).value.overflowed =
      (timer.advance bus timerCycles).value.overflowed := by
    rw [Timer.overflowed_advance, Timer.overflowed_advance, hcounter,
      timer.counts_congr hlatch hcontrol]
  have hbus : (timer.advance seen timerCycles).value.bus =
      { bus with memory := timer.effect bus timerCycles memory, dividerReset := false } := by
    rw [Timer.bus_advance, timer.effect_congr hlatch hcontrol, hmemory, ← hseen]
  rw [← hoverflowed, ← timer.timer_advance_congr hlatch hcontrol, ← hbus]

end

/-! ## The order makes no difference -/

theorem timerFirst_eq_videoFirst (timer : Timer) (ppu : Ppu) (bus : Bus)
    (timerCycles videoCycles : Nat) :
    timerFirst timer ppu bus timerCycles videoCycles =
      videoFirst timer ppu bus timerCycles videoCycles := by
  -- either way the timer finds the same control and counter, and the unit the same picture
  have hrun := (timer.unseen_effect bus timerCycles).run ppu bus.memory videoCycles
  have hsame := ppu.sameOutside_run bus.memory videoCycles
  rw [timerFirst, videoFirst, advance_of_sameOutside hsame, Timer.bus_advance]
  dsimp only
  rw [hrun, Logged.value_map]
  rfl

theorem timerFirst?_eq (hfits : timer.Fits bus timerCycles) (hdot : ppu.dot < Ppu.dotsPerLine)
    (videoCycles : Nat) :
    timerFirst? timer ppu bus timerCycles videoCycles =
      some (timerFirst timer ppu bus timerCycles videoCycles) := by
  rw [timerFirst?, hfits.advance?_eq, Option.bind_eq_bind, Option.bind_some,
    Ppu.run?_eq_some hdot, Option.bind_eq_bind, Option.bind_some, timerFirst]

theorem videoFirst?_eq (hfits : timer.Fits bus timerCycles) (hdot : ppu.dot < Ppu.dotsPerLine)
    (videoCycles : Nat) :
    videoFirst? timer ppu bus timerCycles videoCycles =
      some (videoFirst timer ppu bus timerCycles videoCycles) := by
  have hlater := fits_of_sameOutside (ppu.sameOutside_run bus.memory videoCycles) hfits
  rw [videoFirst?, Ppu.run?_eq_some hdot, Option.bind_eq_bind, Option.bind_some,
    hlater.advance?_eq, Option.bind_eq_bind, Option.bind_some, videoFirst]

/-- **The timer and the video unit in either order.**  From any state of the two, both orders leave
the same timer, the same video unit with the same picture, the same memory, latch, joypad and serial
link, and the two report the same.  With the dot in its line, and cycles that fit into the counters
of the timer, this is also what both orders do in counters of 32 bits. -/
theorem either_order (hfits : timer.Fits bus timerCycles) (hdot : ppu.dot < 456)
    (videoCycles : Nat) :
    let fed := timerFirst timer ppu bus timerCycles videoCycles
    videoFirst timer ppu bus timerCycles videoCycles = fed ∧
      timerFirst? timer ppu bus timerCycles videoCycles = some fed ∧
      videoFirst? timer ppu bus timerCycles videoCycles = some fed := by
  intro fed
  have hsame := timerFirst_eq_videoFirst timer ppu bus timerCycles videoCycles
  refine ⟨hsame.symm, timerFirst?_eq hfits hdot videoCycles, ?_⟩
  exact (videoFirst?_eq hfits hdot videoCycles).trans (congrArg some hsame.symm)

/-- A timer register that is reloaded at every other count, under a display that is on. -/
def litBus : Bus :=
  { Timer.flickeringBus with
    memory := Timer.flickeringBus.memory.store Address.lcdControl 0x80 }

theorem read_litBus {address : UInt16} (h : Address.lcdControl ≠ address) :
    litBus.memory.read address = Timer.flickeringBus.memory.read address :=
  Memory.read_store_of_ne _ h _

/-- A thousand cycles of the timer and a frame of the video unit, both of which make requests. -/
theorem either_order_litBus :
    Timer.Fits ⟨200, 10⟩ litBus 1000 ∧ Ppu.powerOn.dot < 456 ∧
      ∃ fed, timerFirst ⟨200, 10⟩ .powerOn litBus 1000 70224 = fed ∧
        videoFirst ⟨200, 10⟩ .powerOn litBus 1000 70224 = fed ∧
        timerFirst? ⟨200, 10⟩ .powerOn litBus 1000 70224 = some fed ∧
        videoFirst? ⟨200, 10⟩ .powerOn litBus 1000 70224 = some fed ∧
        fed.overflowed = true ∧ fed.frameDone = true := by
  have hfits : Timer.Fits ⟨200, 10⟩ litBus 1000 := .of_lt (by decide) (by decide) _
  have hdot : Ppu.powerOn.dot < 456 := by decide
  have hcontrol : litBus.memory.read Address.timerControl = 0x05 := by
    rw [read_litBus (by decide), Timer.read_flickeringBus]
    decide
  have hcounter : litBus.memory.read Address.timerCounter = 0xFE := by
    rw [read_litBus (by decide), Timer.read_flickeringBus]
    decide
  have hline : litBus.memory.line = 0 := by
    rw [Memory.line, read_litBus (by decide), Timer.read_flickeringBus]
    decide
  have henabled : LcdControl.lcdEnabled litBus.memory.lcdControl = true := by
    rw [Memory.lcdControl, litBus, Memory.read_store_self]
    decide
  have hlatch : litBus.dividerReset = false := rfl
  have hoverflowed : (Timer.advance ⟨200, 10⟩ litBus 1000).value.overflowed = true := by
    rw [Timer.overflowed_advance, Timer.counts, Timer.leftOver, hcounter, hcontrol, hlatch]
    decide
  have hdone : (Ppu.powerOn.run litBus.memory 70224).value.frameDone = true := by
    rw [Ppu.frameDone_run henabled rfl hdot (by rw [hline]; decide)]
    exact decide_eq_true (Nat.le_add_left _ _)
  obtain ⟨hsame, htimer, hvideo⟩ := either_order hfits hdot 70224
  have hfed : (timerFirst ⟨200, 10⟩ .powerOn litBus 1000 70224).overflowed = true := by
    rw [timerFirst, hoverflowed]
  have hframe : (videoFirst ⟨200, 10⟩ .powerOn litBus 1000 70224).frameDone = true := by
    rw [videoFirst, hdone]
  rw [hsame] at hframe
  -- the outcome is named before the facts are put together, so that nothing computes it
  generalize timerFirst ⟨200, 10⟩ .powerOn litBus 1000 70224 = fed at *
  exact ⟨hfits, hdot, fed, rfl, hsame, htimer, hvideo, hfed, hframe⟩

end Fed

end GameBoy
