import GameBoy.Bus

/-!
# The timer

The divider register counts every 256 clock cycles.  The timer register counts, while it is
enabled, at one of four rates; when it overflows it restarts at the modulo register and requests
an interrupt.  `Timer` holds the cycles that have not yet made up a count.
-/

namespace GameBoy

structure Timer where
  /-- Clock cycles since the divider last counted. -/
  dividerCycles : Nat
  /-- Clock cycles since the timer register last counted. -/
  counterCycles : Nat
  deriving DecidableEq, Repr

namespace Timer

def powerOn : Timer where
  dividerCycles := 0
  counterCycles := 0

/-- Clock cycles from one count of the divider to the next. -/
def dividerPeriod : Nat := 256

/-- Clock cycles from one count of the timer register to the next, under a control byte. -/
def period (control : UInt8) : Nat :=
  match control.toNat % 4 with
  | 0 => 1024
  | 1 => 16
  | 2 => 64
  | _ => 256

def isEnabled (control : UInt8) : Bool := bit control 2

/-! ## Counting -/

/-- Memory while the timer register counts, and whether it has overflowed. -/
structure Counting where
  memory : Memory
  overflowed : Bool

/-- One count of the timer register. -/
def Counting.next (counting : Counting) : Logged Counting :=
  match counting with
  | ⟨memory, overflowed⟩ =>
    let count := memory.read Address.timerCounter
    if count = 0xFF then do
      let modulo := memory.read Address.timerModulo
      Logged.note (.timerReload modulo)
      let memory ← (memory.store Address.timerCounter modulo).request .timer
      pure { memory, overflowed := true }
    else
      pure { memory := memory.store Address.timerCounter (count + 1), overflowed }

/-- `n` counts of the timer register. -/
def count (n : Nat) (memory : Memory) : Logged Counting :=
  Nat.repeat (· >>= Counting.next) n (pure { memory, overflowed := false })

/-- Lets the divider register count `n` times. -/
def countDivider (n : Nat) (memory : Memory) : Memory :=
  memory.store Address.divider (memory.read Address.divider + UInt8.ofNat n)

/-! ## Advancing -/

/-- The timer and the bus after some cycles, and whether the timer register overflowed. -/
structure Advanced where
  timer : Timer
  bus : Bus
  overflowed : Bool

/-- A write to the divider since the last advance starts both counts afresh. -/
def acknowledgeReset (timer : Timer) (bus : Bus) : Logged (Timer × Bus) :=
  if bus.dividerReset then
    { value := ({ dividerCycles := 0, counterCycles := 0 }, { bus with dividerReset := false })
      journal := #[.dividerReset] }
  else
    pure (timer, bus)

/-- Feeds clock cycles to both counters. -/
def advance (timer : Timer) (bus : Bus) (cycles : Nat) : Logged Advanced := do
  let (⟨dividerCycles, counterCycles⟩, ⟨memory, joypad, latch, serial⟩) ←
    timer.acknowledgeReset bus
  let elapsed := dividerCycles + cycles
  let memory := countDivider (elapsed / dividerPeriod) memory
  let control := memory.read Address.timerControl
  if isEnabled control then
    let due := counterCycles + cycles
    let ⟨memory, overflowed⟩ ← count (due / period control) memory
    pure
      { timer := ⟨elapsed % dividerPeriod, due % period control⟩
        bus := ⟨memory, joypad, latch, serial⟩
        overflowed }
  else
    pure
      { timer := ⟨elapsed % dividerPeriod, counterCycles⟩
        bus := ⟨memory, joypad, latch, serial⟩
        overflowed := false }

end Timer

end GameBoy
