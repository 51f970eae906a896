import Mathlib.Logic.Function.Iterate
import GameBoy.Proofs.Timer

/-!
# How often the timer register counts

One count of the timer register is a function of memory, `counted`, and an advance iterates it: as
often as the period fits into the cycles at hand, those left over from earlier included, if the
register is enabled, `counts`.  Together with the divider this is all an advance does, `bus_advance`
and `timer_advance`; and because nothing is rounded away, an advance may be cut anywhere,
`effect_add` and `timer_advance_add`.
-/

namespace GameBoy.Timer

/-! ## Counting -/

/-- Memory after one count of the timer register. -/
def counted (memory : Memory) : Memory :=
  let count := memory.read Address.timerCounter
  if count = 0xFF then
    ((memory.store Address.timerCounter (memory.read Address.timerModulo)).request .timer).value
  else
    memory.store Address.timerCounter (count + 1)

theorem memory_next (counting : Counting) :
    counting.next.value.memory = counted counting.memory := by
  obtain ⟨memory, overflowed⟩ := counting
  unfold Counting.next counted
  dsimp only
  split <;> rfl

theorem memory_count (n : Nat) (memory : Memory) :
    (count n memory).value.memory = counted^[n] memory := by
  induction n with
  | zero => rfl
  | succ n ih =>
      rw [Function.iterate_succ_apply', ← ih]
      exact memory_next _

/-- The timer register one count later, under a modulo. -/
def nextCount (modulo count : UInt8) : UInt8 := if count = 0xFF then modulo else count + 1

theorem timerCounter_counted (memory : Memory) :
    (counted memory).read Address.timerCounter =
      nextCount (memory.read Address.timerModulo) (memory.read Address.timerCounter) := by
  unfold counted nextCount
  dsimp only
  split
  · exact (Memory.read_store_of_ne _ (by decide) _).trans (Memory.read_store_self _ _ _)
  · exact Memory.read_store_self _ _ _

theorem timerModulo_counted (memory : Memory) :
    (counted memory).read Address.timerModulo = memory.read Address.timerModulo := by
  rw [← memory_next ⟨memory, false⟩]
  exact sameOutside_next ⟨memory, false⟩ Address.timerModulo (by decide)

theorem timerCounter_iterate_counted (n : Nat) (memory : Memory) :
    (counted^[n] memory).read Address.timerCounter =
      (nextCount (memory.read Address.timerModulo))^[n] (memory.read Address.timerCounter) := by
  induction n generalizing memory with
  | zero => rfl
  | succ n ih =>
      rw [Function.iterate_succ_apply, Function.iterate_succ_apply, ih, timerModulo_counted,
        timerCounter_counted]

/-! ### The divider -/

theorem countDivider_add (m n : Nat) (memory : Memory) :
    countDivider (m + n) memory = countDivider n (countDivider m memory) := by
  unfold countDivider
  rw [Memory.read_store_self, Memory.store_store, UInt8.ofNat_add, UInt8.add_assoc]

section

variable (n : Nat) (memory : Memory) {address : UInt16} (hne : Address.divider ≠ address)

include hne

theorem read_countDivider : (countDivider n memory).read address = memory.read address :=
  memory.read_store_of_ne hne _

theorem store_countDivider (value : UInt8) :
    (countDivider n memory).store address value = countDivider n (memory.store address value) := by
  unfold countDivider
  rw [Memory.store_comm _ hne, Memory.read_store_of_ne _ hne.symm]

end

theorem request_countDivider (n : Nat) (memory : Memory) (source : Interrupt) :
    ((countDivider n memory).request source).value =
      countDivider n (memory.request source).value := by
  unfold Memory.request
  dsimp only
  rw [read_countDivider n memory (by decide), store_countDivider n memory (by decide)]

/-- The divider and the timer register count independently. -/
theorem counted_countDivider (n : Nat) (memory : Memory) :
    counted (countDivider n memory) = countDivider n (counted memory) := by
  unfold counted
  rw [read_countDivider n memory (by decide), read_countDivider n memory (by decide)]
  dsimp only
  split
  · rw [store_countDivider n memory (by decide), request_countDivider]
  · exact store_countDivider n memory (by decide) _

/-! ## Advancing -/

/-- The cycles that the timer register has left over from earlier. -/
def leftOver (timer : Timer) (bus : Bus) : Nat :=
  if bus.dividerReset then 0 else timer.counterCycles

/-- How often the timer register counts during an advance. -/
def counts (timer : Timer) (bus : Bus) (cycles : Nat) : Nat :=
  let control := bus.memory.read Address.timerControl
  if isEnabled control then (timer.leftOver bus + cycles) / period control else 0

/-- What an advance does to memory: the divider counts, and then the timer register. -/
def effect (timer : Timer) (bus : Bus) (cycles : Nat) (memory : Memory) : Memory :=
  counted^[timer.counts bus cycles] (countDivider (timer.elapsed bus cycles / 256) memory)

variable (timer : Timer) (bus : Bus)

theorem bus_advance (cycles : Nat) :
    (timer.advance bus cycles).value.bus =
      { bus with
        memory := timer.effect bus cycles bus.memory
        dividerReset := false } := by
  unfold advance effect elapsed counts leftOver
  rw [Logged.value_bind, value_acknowledgeReset]
  generalize (if bus.dividerReset then 0 else timer.dividerCycles) = dividerCycles
  generalize (if bus.dividerReset then 0 else timer.counterCycles) = counterCycles
  dsimp only
  -- counting the divider leaves the control register
  rw [read_countDivider _ _ (by decide)]
  split
  · rw [← memory_count]
    rfl
  · rfl

theorem timer_advance (cycles : Nat) :
    (timer.advance bus cycles).value.timer =
      { dividerCycles := timer.elapsed bus cycles % 256
        counterCycles :=
          let control := bus.memory.read Address.timerControl
          if isEnabled control then (timer.leftOver bus + cycles) % period control
          else timer.leftOver bus } := by
  unfold advance elapsed leftOver
  rw [Logged.value_bind, value_acknowledgeReset]
  generalize (if bus.dividerReset then 0 else timer.dividerCycles) = dividerCycles
  generalize (if bus.dividerReset then 0 else timer.counterCycles) = counterCycles
  dsimp only
  rw [read_countDivider _ _ (by decide)]
  split <;> rfl

theorem timerCounter_advance (cycles : Nat) :
    (timer.advance bus cycles).value.bus.memory.read Address.timerCounter =
      (nextCount (bus.memory.read Address.timerModulo))^[timer.counts bus cycles]
        (bus.memory.read Address.timerCounter) := by
  rw [bus_advance, effect, timerCounter_iterate_counted, read_countDivider _ _ (by decide),
    read_countDivider _ _ (by decide)]

/-! ### Cutting an advance -/

theorem control_advance (cycles : Nat) :
    (timer.advance bus cycles).value.bus.memory.read Address.timerControl =
      bus.memory.read Address.timerControl :=
  timer.sameOutside_advance bus cycles Address.timerControl (by decide)

theorem elapsed_advance (first second : Nat) :
    let after := (timer.advance bus first).value
    after.timer.elapsed after.bus second = timer.elapsed bus first % 256 + second := by
  intro after
  rw [elapsed, dividerReset_advance, dividerCycles_advance]
  rfl

theorem leftOver_advance (cycles : Nat) :
    let after := (timer.advance bus cycles).value
    let control := bus.memory.read Address.timerControl
    after.timer.leftOver after.bus =
      if isEnabled control then (timer.leftOver bus + cycles) % period control
      else timer.leftOver bus := by
  intro after control
  rw [leftOver, dividerReset_advance, timer_advance]
  rfl

theorem period_pos (control : UInt8) : 0 < period control := by
  unfold period
  split <;> decide

theorem period_le (control : UInt8) : period control ≤ 1024 := by
  unfold period
  split <;> decide

/-- What is left over from a first division goes into the second. -/
theorem div_add_mod_div (n more : Nat) {d : Nat} (hd : 0 < d) :
    (n + more) / d = (n % d + more) / d + n / d := by
  have hsplit : n + more = n % d + more + d * (n / d) := by
    rw [Nat.add_right_comm, Nat.mod_add_div]
  rw [hsplit, Nat.add_mul_div_left _ _ hd]

theorem counts_add (first second : Nat) :
    let after := (timer.advance bus first).value
    timer.counts bus (first + second) =
      after.timer.counts after.bus second + timer.counts bus first := by
  intro after
  unfold counts
  rw [control_advance, leftOver_advance]
  dsimp only
  split
  · rw [← Nat.add_assoc]
    exact div_add_mod_div _ second (period_pos _)
  · rfl

/-- The effect of an advance may be had in two parts, on any memory. -/
theorem effect_add (first second : Nat) (memory : Memory) :
    let after := (timer.advance bus first).value
    timer.effect bus (first + second) memory =
      after.timer.effect after.bus second (timer.effect bus first memory) := by
  intro after
  -- what the first part leaves over is carried into the second
  have helapsed : timer.elapsed bus (first + second) / 256 =
      timer.elapsed bus first / 256 + after.timer.elapsed after.bus second / 256 := by
    rw [elapsed_advance, Nat.add_comm (_ / 256), ← div_add_mod_div _ second (by decide)]
    exact congrArg (· / 256) (Nat.add_assoc _ _ _).symm
  unfold effect
  rw [counts_add, Function.iterate_add_apply, helapsed, countDivider_add]
  -- the divider of the second part passes over the counts of the first
  rw [Function.Commute.iterate_left (counted_countDivider _) _ _]

/-- The timer has the same cycles in hand whether it is advanced once or twice. -/
theorem timer_advance_add (first second : Nat) :
    let after := (timer.advance bus first).value
    (timer.advance bus (first + second)).value.timer =
      (after.timer.advance after.bus second).value.timer := by
  intro after
  have helapsed : timer.elapsed bus (first + second) = timer.elapsed bus first + second :=
    (Nat.add_assoc _ _ _).symm
  rw [timer_advance, timer_advance, elapsed_advance, leftOver_advance, control_advance, helapsed,
    Nat.mod_add_mod]
  dsimp only
  split
  · rw [Nat.mod_add_mod, Nat.add_assoc]
  · rfl

/-! ### What an advance depends on -/

section

variable {bus other : Bus} (hlatch : other.dividerReset = bus.dividerReset)
  (hcontrol : other.memory.read Address.timerControl = bus.memory.read Address.timerControl)

include hlatch hcontrol

theorem counts_congr (cycles : Nat) : timer.counts other cycles = timer.counts bus cycles := by
  unfold counts leftOver
  rw [hlatch, hcontrol]

/-- Of the bus an advance reads the divider latch and the control byte. -/
theorem effect_congr (cycles : Nat) : timer.effect other cycles = timer.effect bus cycles := by
  unfold effect elapsed
  rw [counts_congr timer hlatch hcontrol, hlatch]

theorem timer_advance_congr (cycles : Nat) :
    (timer.advance other cycles).value.timer = (timer.advance bus cycles).value.timer := by
  rw [timer_advance, timer_advance, leftOver, leftOver, elapsed, elapsed, hlatch, hcontrol]

end

end GameBoy.Timer
