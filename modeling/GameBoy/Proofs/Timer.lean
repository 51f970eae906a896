import GameBoy.Proofs.Store
import GameBoy.Timer

/-!
# What the timer does to memory

An advance counts the divider and, if it is enabled, the timer register, and takes the divider
latch of the bus.  The divider and the cycles towards its next count are one number in two places,
`elapsed`; the timer register and its control byte have no influence on them.
-/

namespace GameBoy.Timer

open Memory (SameOutside)

/-! ## Counting -/

theorem sameOutside_next (counting : Counting) :
    SameOutside [Address.timerCounter, Address.interruptRequest] counting.memory
      counting.next.value.memory := by
  obtain ⟨memory, overflowed⟩ := counting
  unfold Counting.next
  dsimp only
  split
  · have hreload : SameOutside [Address.timerCounter, Address.interruptRequest] memory
        (memory.store Address.timerCounter (memory.read Address.timerModulo)) :=
      .store memory (by decide) _
    exact hreload.trans (.store _ (by decide) _)
  · exact .store memory (by decide) _

theorem sameOutside_count (n : Nat) (memory : Memory) :
    SameOutside [Address.timerCounter, Address.interruptRequest] memory
      (count n memory).value.memory := by
  unfold count
  induction n with
  | zero => exact .refl memory
  | succ n ih =>
      rw [Nat.repeat, Logged.value_bind]
      exact ih.trans (sameOutside_next _)

/-! ## Advancing -/

/-- The cycles that the divider is due to count after an advance. -/
def elapsed (timer : Timer) (bus : Bus) (cycles : Nat) : Nat :=
  (if bus.dividerReset then 0 else timer.dividerCycles) + cycles

variable (timer : Timer) (bus : Bus) (cycles : Nat)

theorem value_acknowledgeReset :
    (timer.acknowledgeReset bus).value =
      (⟨if bus.dividerReset then 0 else timer.dividerCycles,
        if bus.dividerReset then 0 else timer.counterCycles⟩,
        { bus with dividerReset := false }) := by
  obtain ⟨memory, joypad, latch, serial⟩ := bus
  cases latch <;> rfl

/-- An advance counts the divider first; what it does after that leaves the divider alone. -/
theorem exists_advance :
    ∃ counterCycles overflowed memory,
      SameOutside [Address.timerCounter, Address.interruptRequest]
        (countDivider (timer.elapsed bus cycles / 256) bus.memory) memory ∧
      (timer.advance bus cycles).value =
        { timer := ⟨timer.elapsed bus cycles % 256, counterCycles⟩
          bus := { bus with memory, dividerReset := false }
          overflowed } := by
  unfold advance elapsed
  rw [Logged.value_bind, value_acknowledgeReset]
  -- the latch has been dealt with; what it leaves of the two counts does not matter here
  generalize (if bus.dividerReset then 0 else timer.dividerCycles) = dividerCycles
  generalize (if bus.dividerReset then 0 else timer.counterCycles) = counterCycles
  dsimp only
  split
  · exact ⟨_, _, _, sameOutside_count _ _, rfl⟩
  · exact ⟨counterCycles, false, _, .refl _, rfl⟩

/-- An advance counts the timer register some number of times, none if it is disabled. -/
theorem exists_count_advance :
    ∃ n, (timer.advance bus cycles).value.bus.memory =
      (count n (countDivider (timer.elapsed bus cycles / 256) bus.memory)).value.memory := by
  unfold advance elapsed
  rw [Logged.value_bind, value_acknowledgeReset]
  generalize (if bus.dividerReset then 0 else timer.dividerCycles) = dividerCycles
  generalize (if bus.dividerReset then 0 else timer.counterCycles) = counterCycles
  dsimp only
  split
  · exact ⟨_, rfl⟩
  · exact ⟨0, rfl⟩

theorem dividerCycles_advance :
    (timer.advance bus cycles).value.timer.dividerCycles = timer.elapsed bus cycles % 256 := by
  obtain ⟨counterCycles, overflowed, memory, -, hvalue⟩ := timer.exists_advance bus cycles
  rw [hvalue]

theorem dividerReset_advance : (timer.advance bus cycles).value.bus.dividerReset = false := by
  obtain ⟨counterCycles, overflowed, memory, -, hvalue⟩ := timer.exists_advance bus cycles
  rw [hvalue]

theorem divider_advance :
    (timer.advance bus cycles).value.bus.memory.read Address.divider =
      bus.memory.read Address.divider + UInt8.ofNat (timer.elapsed bus cycles / 256) := by
  obtain ⟨counterCycles, overflowed, memory, hmemory, hvalue⟩ := timer.exists_advance bus cycles
  rw [hvalue]
  exact (hmemory Address.divider (by decide)).trans (bus.memory.read_store_self _ _)

theorem sameOutside_advance :
    SameOutside [Address.divider, Address.timerCounter, Address.interruptRequest] bus.memory
      (timer.advance bus cycles).value.bus.memory := by
  obtain ⟨counterCycles, overflowed, memory, hmemory, hvalue⟩ := timer.exists_advance bus cycles
  have hdivider : SameOutside [Address.divider, Address.timerCounter, Address.interruptRequest]
      bus.memory (countDivider (timer.elapsed bus cycles / 256) bus.memory) :=
    .store bus.memory (by decide) _
  rw [hvalue]
  exact hdivider.trans (hmemory.mono (by decide))

end GameBoy.Timer
