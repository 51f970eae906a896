import GameBoy.Proofs.Counter
import GameBoy.Proofs.Timer.Counts

/-!
# The timer in counters of 32 bits

The two counters of the timer are words of 32 bits, and each takes its period off in a loop.
`advance?` is an advance in these terms, operation for operation, and fails where a counter would
leave its range.  As long as the cycles fit it does not fail, and returns what `advance` returns:
`Fits.advance?_eq`.
-/

namespace GameBoy.Timer

open Width Counter

/-! ## Rounds -/

theorem countDivider_eq_iterate (n : Nat) (memory : Memory) :
    countDivider n memory = (countDivider 1)^[n] memory := by
  induction n with
  | zero =>
      apply Memory.ext
      intro address
      rw [countDivider, Memory.read_store]
      split
      · rename_i haddress
        subst haddress
        exact UInt8.add_zero _
      · rfl
  | succ n ih => rw [countDivider_add, ih, Function.iterate_succ_apply']

/-- One round of a loop on the timer register. -/
def Counting.round (counting : Counting) : Counting := counting.next.value

theorem value_count (n : Nat) (memory : Memory) :
    (count n memory).value = Counting.round^[n] ⟨memory, false⟩ := by
  induction n with
  | zero => rfl
  | succ n ih =>
      rw [Function.iterate_succ_apply', ← ih]
      rfl

/-! ## Advancing -/

/-- An advance in counters of 32 bits. -/
def advance? (timer : Timer) (bus : Bus) (cycles : Nat) : Option Advanced := do
  let (⟨dividerCycles, counterCycles⟩, ⟨memory, joypad, latch, serial⟩) :=
    (timer.acknowledgeReset bus).value
  let elapsed ← sum? 32 dividerCycles cycles
  let (memory, dividerCycles) ← drain? dividerPeriod (countDivider 1) elapsed memory
  let control := memory.read Address.timerControl
  if isEnabled control then
    let due ← sum? 32 counterCycles cycles
    let (⟨memory, overflowed⟩, counterCycles) ←
      drain? (period control) Counting.round due ⟨memory, false⟩
    pure
      { timer := ⟨dividerCycles, counterCycles⟩
        bus := ⟨memory, joypad, latch, serial⟩
        overflowed }
  else
    pure
      { timer := ⟨dividerCycles, counterCycles⟩
        bus := ⟨memory, joypad, latch, serial⟩
        overflowed := false }

/-- The counters have room for the cycles: that of the divider, and that of the timer register if it
counts at all. -/
structure Fits (timer : Timer) (bus : Bus) (cycles : Nat) : Prop where
  elapsed_lt : timer.elapsed bus cycles < 2 ^ 32
  due_lt : isEnabled (bus.memory.read Address.timerControl) = true →
    timer.leftOver bus + cycles < 2 ^ 32

/-- If the cycles fit, an advance in counters of 32 bits is an advance. -/
theorem Fits.advance?_eq {timer : Timer} {bus : Bus} {cycles : Nat}
    (h : timer.Fits bus cycles) :
    timer.advance? bus cycles = some (timer.advance bus cycles).value := by
  obtain ⟨helapsed, hdue⟩ := h
  have hperiod : 0 < dividerPeriod := by decide
  unfold elapsed at helapsed
  unfold leftOver at hdue
  unfold advance? advance
  rw [Logged.value_bind, value_acknowledgeReset]
  -- with the latch dealt with, both versions go on from the same two counts
  generalize (if bus.dividerReset then 0 else timer.dividerCycles) = dividerCycles at helapsed
  generalize (if bus.dividerReset then 0 else timer.counterCycles) = counterCycles at hdue
  simp only [Option.bind_eq_bind, Option.bind_some, sum?_eq_some helapsed, drain?_eq_some hperiod,
    ← countDivider_eq_iterate]
  rw [read_countDivider _ _ (by decide)]
  split
  · rename_i henabled
    simp only [sum?_eq_some (hdue henabled), Option.bind_some, drain?_eq_some (period_pos _),
      ← value_count]
    rfl
  · rfl

/-- A reset of the divider only brings the counters further away from the limit. -/
theorem Fits.of_lt {timer : Timer} {cycles : Nat} (hdivider : timer.dividerCycles + cycles < 2 ^ 32)
    (hcounter : timer.counterCycles + cycles < 2 ^ 32) (bus : Bus) : timer.Fits bus cycles := by
  have hreset (counter : Nat) : (if bus.dividerReset then 0 else counter) ≤ counter := by
    split <;> omega
  exact ⟨Nat.lt_of_le_of_lt (Nat.add_le_add_right (hreset _) cycles) hdivider,
    fun _ => Nat.lt_of_le_of_lt (Nat.add_le_add_right (hreset _) cycles) hcounter⟩

end GameBoy.Timer
