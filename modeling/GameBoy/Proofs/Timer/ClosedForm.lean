import GameBoy.Proofs.Timer.Exact

/-!
# The timer register in closed form

From a reload on, the timer register goes around in a cycle of its own: it counts from the modulo
register up to 255, and the next count takes it back.  So what it holds after any number of counts
is a remainder, `countAfter`, it has requested an interrupt as soon as the counts take it past 255,
and how often they do makes no difference.  `CountedBy` says so of memory, and is kept by one more
count, `CountedBy.next`.

An advance makes as many counts as periods fit into its cycles.  `closedForm_advance` puts this
together with the divider: an advance is arithmetic on what it finds, in counters of 32 bits too.
-/

namespace GameBoy.Timer

open Memory (SameOutside)

/-! ## Counts as numbers -/

/-- What the timer register holds after `n` counts, starting from `first`. -/
def countAfter (modulo first n : Nat) : Nat :=
  if first + n < 256 then first + n else modulo + (first + n - 256) % (256 - modulo)

section

variable {modulo first : Nat}

theorem countAfter_of_lt {n : Nat} (h : first + n < 256) :
    countAfter modulo first n = first + n :=
  if_pos h

theorem countAfter_of_le {n : Nat} (h : 256 ≤ first + n) :
    countAfter modulo first n = modulo + (first + n - 256) % (256 - modulo) :=
  if_neg (Nat.not_lt.mpr h)

/-- A remainder that goes up by one starts again at zero when it gets to the divisor. -/
theorem succ_mod (k : Nat) {d : Nat} (hd : 0 < d) :
    (k + 1) % d = if k % d + 1 = d then 0 else k % d + 1 := by
  have hlt : k % d < d := Nat.mod_lt k hd
  rw [← Nat.mod_add_mod]
  split
  · rename_i hfull
    rw [hfull, Nat.mod_self]
  · rename_i hroom
    exact Nat.mod_eq_of_lt (by omega)

/-- One more count takes 255 back to the modulo. -/
theorem countAfter_succ (hmodulo : modulo < 256) (first n : Nat) :
    countAfter modulo first (n + 1) =
      if countAfter modulo first n = 255 then modulo else countAfter modulo first n + 1 := by
  have hcycle : 0 < 256 - modulo := Nat.sub_pos_of_lt hmodulo
  -- the register is going up for the first time, is full then, or has gone around
  rcases Nat.lt_trichotomy (first + n) 255 with hbelow | hfull | habove
  · rw [countAfter_of_lt (by omega), countAfter_of_lt (by omega), if_neg (by omega)]
    rfl
  · rw [countAfter_of_lt (n := n) (by omega), countAfter_of_le (by omega), if_pos hfull]
    have hfirst : first + (n + 1) - 256 = 0 := by omega
    rw [hfirst, Nat.zero_mod, Nat.add_zero]
  · -- the register goes around: it is full at the last place of the cycle
    have hnext : first + (n + 1) - 256 = first + n - 256 + 1 := by omega
    have hplace : modulo + (first + n - 256) % (256 - modulo) = 255 ↔
        (first + n - 256) % (256 - modulo) + 1 = 256 - modulo := by omega
    rw [countAfter_of_le (n := n) (by omega), countAfter_of_le (by omega), hnext,
      succ_mod _ hcycle]
    simp only [hplace]
    split
    · rfl
    · exact (Nat.add_assoc _ _ _).symm

/-- A register that is not full yet has been full as often after one more count. -/
theorem lt_succ_iff_of_ne {n : Nat} (h : countAfter modulo first n ≠ 255) :
    first + (n + 1) < 256 ↔ first + n < 256 := by
  rcases Nat.lt_or_ge (first + n) 256 with hlt | hge
  · rw [countAfter_of_lt hlt] at h
    omega
  · omega

end

/-! ## Counts in memory -/

/-- The state after `n` counts of the timer register. -/
structure CountedBy (memory : Memory) (n : Nat) (counting : Counting) : Prop where
  modulo_eq : counting.memory.read Address.timerModulo = memory.read Address.timerModulo
  counter_eq : (counting.memory.read Address.timerCounter).toNat =
    countAfter (memory.read Address.timerModulo).toNat (memory.read Address.timerCounter).toNat n
  requests_eq : counting.memory.read Address.interruptRequest =
    if (memory.read Address.timerCounter).toNat + n < 256 then
      memory.read Address.interruptRequest
    else memory.read Address.interruptRequest ||| Interrupt.timer.mask
  overflowed_eq : counting.overflowed =
    decide (256 ≤ (memory.read Address.timerCounter).toNat + n)

theorem countedBy_zero (memory : Memory) : CountedBy memory 0 ⟨memory, false⟩ := by
  have hlt : (memory.read Address.timerCounter).toNat + 0 < 256 :=
    (memory.read Address.timerCounter).toNat_lt
  refine ⟨rfl, ?_, ?_, ?_⟩
  · rw [countAfter_of_lt hlt]
    rfl
  · rw [if_pos hlt]
  · rw [decide_eq_false (Nat.not_le_of_lt hlt)]

section

variable {memory current : Memory} {n : Nat} {overflowed : Bool}

/-- A full register is reloaded and makes a request. -/
theorem value_next_of_full (h : current.read Address.timerCounter = 0xFF) (overflowed : Bool) :
    (Counting.next ⟨current, overflowed⟩).value =
      ⟨((current.store Address.timerCounter (current.read Address.timerModulo)).request
        .timer).value, true⟩ := by
  unfold Counting.next
  dsimp only
  rw [if_pos h]
  rfl

theorem value_next_of_ne (h : current.read Address.timerCounter ≠ 0xFF) (overflowed : Bool) :
    (Counting.next ⟨current, overflowed⟩).value =
      ⟨current.store Address.timerCounter (current.read Address.timerCounter + 1), overflowed⟩ := by
  unfold Counting.next
  dsimp only
  rw [if_neg h]
  rfl

theorem CountedBy.next_of_full (h : CountedBy memory n ⟨current, overflowed⟩)
    (hfull : current.read Address.timerCounter = 0xFF) :
    CountedBy memory (n + 1) (Counting.next ⟨current, overflowed⟩).value := by
  obtain ⟨hmodulo, hcounter, hrequests, -⟩ := h
  dsimp only at hmodulo hcounter hrequests
  generalize hreload : current.store Address.timerCounter (current.read Address.timerModulo) =
    reloaded at *
  have hlast : countAfter (memory.read Address.timerModulo).toNat
      (memory.read Address.timerCounter).toNat n = 255 := by
    rw [← hcounter, hfull]
    rfl
  -- the register is not full before it has come to 255
  have hpast : 256 ≤ (memory.read Address.timerCounter).toNat + (n + 1) := by
    by_contra hlt
    rw [countAfter_of_lt (by omega)] at hlast
    omega
  have hread {address : UInt16} (hne : Address.interruptRequest ≠ address) :
      (reloaded.request .timer).value.read address = reloaded.read address :=
    Memory.read_store_of_ne _ hne _
  rw [value_next_of_full hfull, hreload]
  refine ⟨?_, ?_, ?_, (decide_eq_true hpast).symm⟩
  · rw [hread (by decide), ← hreload, Memory.read_store_of_ne _ (by decide), hmodulo]
  · rw [hread (by decide), ← hreload, Memory.read_store_self, hmodulo,
      countAfter_succ (memory.read Address.timerModulo).toNat_lt, if_pos hlast]
  · have hkept : reloaded.read Address.interruptRequest =
        current.read Address.interruptRequest := by
      rw [← hreload, Memory.read_store_of_ne _ (by decide)]
    rw [Memory.request, Memory.read_store_self, hkept, hrequests, if_neg (Nat.not_lt.mpr hpast)]
    -- a request that has been made before is made again
    split
    · rfl
    · rw [UInt8.or_assoc, UInt8.or_self]

theorem CountedBy.next_of_ne (h : CountedBy memory n ⟨current, overflowed⟩)
    (hfull : current.read Address.timerCounter ≠ 0xFF) :
    CountedBy memory (n + 1) (Counting.next ⟨current, overflowed⟩).value := by
  obtain ⟨hmodulo, hcounter, hrequests, hoverflowed⟩ := h
  dsimp only at hmodulo hcounter hrequests hoverflowed
  have hroom : (current.read Address.timerCounter).toNat ≠ 255 := fun hlast =>
    hfull (UInt8.toNat_inj.mp hlast)
  have hlt := (current.read Address.timerCounter).toNat_lt
  have hsucc := countAfter_succ (memory.read Address.timerModulo).toNat_lt
    (memory.read Address.timerCounter).toNat n
  rw [← hcounter, if_neg hroom] at hsucc
  rw [hcounter] at hroom
  -- a register that is not full does not overflow, so the two counts are on one side of 256
  have hsame := lt_succ_iff_of_ne hroom
  rw [value_next_of_ne hfull]
  refine ⟨?_, ?_, ?_, ?_⟩
  · rw [Memory.read_store_of_ne _ (by decide), hmodulo]
  · rw [Memory.read_store_self, hsucc, UInt8.toNat_add]
    exact Nat.mod_eq_of_lt (by simp only [UInt8.reduceToNat]; omega)
  · rw [Memory.read_store_of_ne _ (by decide), hrequests]
    simp only [hsame]
  · rw [hoverflowed]
    simp only [← Nat.not_lt, hsame]

end

theorem CountedBy.next {memory : Memory} {n : Nat} {counting : Counting}
    (h : CountedBy memory n counting) : CountedBy memory (n + 1) counting.next.value := by
  by_cases hfull : counting.memory.read Address.timerCounter = 0xFF
  · exact h.next_of_full hfull
  · exact h.next_of_ne hfull

theorem countedBy_count (n : Nat) (memory : Memory) :
    CountedBy memory n (count n memory).value := by
  induction n with
  | zero => exact countedBy_zero memory
  | succ n ih => exact ih.next

/-! ## Advances -/

/-- An advance counts the timer register, whatever it does to the divider. -/
theorem countedBy_advance (timer : Timer) (bus : Bus) (cycles : Nat) :
    CountedBy bus.memory (timer.counts bus cycles)
      ⟨(timer.advance bus cycles).value.bus.memory,
        (timer.advance bus cycles).value.overflowed⟩ := by
  have hcounted : CountedBy (countDivider (timer.elapsed bus cycles / 256) bus.memory)
      (timer.counts bus cycles)
      ⟨(timer.advance bus cycles).value.bus.memory,
        (timer.advance bus cycles).value.overflowed⟩ := by
    unfold advance elapsed counts leftOver
    rw [Logged.value_bind, value_acknowledgeReset]
    generalize (if bus.dividerReset then 0 else timer.dividerCycles) = dividerCycles
    generalize (if bus.dividerReset then 0 else timer.counterCycles) = counterCycles
    dsimp only
    rw [read_countDivider _ _ (by decide)]
    split
    · exact countedBy_count _ _
    · exact countedBy_zero _
  -- the divider is counted first, and none of the facts is about its register
  have hread {address : UInt16} (hne : Address.divider ≠ address) :=
    read_countDivider (timer.elapsed bus cycles / 256) bus.memory hne
  obtain ⟨hmodulo, hcounter, hrequests, hoverflowed⟩ := hcounted
  rw [hread (by decide)] at hmodulo hoverflowed
  rw [hread (by decide), hread (by decide)] at hcounter hrequests
  exact ⟨hmodulo, hcounter, hrequests, hoverflowed⟩

theorem overflowed_advance (timer : Timer) (bus : Bus) (cycles : Nat) :
    (timer.advance bus cycles).value.overflowed =
      decide (256 ≤ (bus.memory.read Address.timerCounter).toNat + timer.counts bus cycles) :=
  (timer.countedBy_advance bus cycles).overflowed_eq

/-- **The timer in closed form.**  If the cycles fit into the counters, an advance takes down the
latch, feeds the cycles to the divider, and to the timer register if that is enabled.  Either counts
the periods that they fill, together with what was left over, and keeps the remainder; a raised
latch has thrown away what was left over.  The timer register requests an interrupt, and the advance
says so, exactly if its counts take it past 255, and it then goes around from the modulo on. -/
theorem closedForm_advance {timer : Timer} {bus : Bus} {cycles : Nat}
    (h : timer.Fits bus cycles) :
    let elapsed := (if bus.dividerReset then 0 else timer.dividerCycles) + cycles
    let left := if bus.dividerReset then 0 else timer.counterCycles
    let control := bus.memory.read Address.timerControl
    let first := (bus.memory.read Address.timerCounter).toNat
    let modulo := (bus.memory.read Address.timerModulo).toNat
    let n := (left + cycles) / period control
    let requests := bus.memory.read Address.interruptRequest
    let after := (timer.advance bus cycles).value
    let counter' := after.bus.memory.read Address.timerCounter
    let requests' := after.bus.memory.read Address.interruptRequest
    timer.advance? bus cycles = some after ∧
      after.bus.dividerReset = false ∧
      after.timer.dividerCycles = elapsed % 256 ∧
      (after.bus.memory.read Address.divider).toNat =
        ((bus.memory.read Address.divider).toNat + elapsed / 256) % 256 ∧
      (isEnabled control = false →
        after.timer.counterCycles = left ∧ counter'.toNat = first ∧ requests' = requests ∧
          after.overflowed = false) ∧
      (isEnabled control = true →
        after.timer.counterCycles = (left + cycles) % period control ∧
        (first + n < 256 →
          counter'.toNat = first + n ∧ requests' = requests ∧ after.overflowed = false) ∧
        (256 ≤ first + n →
          counter'.toNat = modulo + (first + n - 256) % (256 - modulo) ∧
            requests' = requests ||| 0x04 ∧ after.overflowed = true)) ∧
      SameOutside [Address.divider, Address.timerCounter, Address.interruptRequest] bus.memory
        after.bus.memory := by
  intro elapsed left control first modulo n requests after counter' requests'
  obtain ⟨-, hcounter, hrequests, hoverflowed⟩ := timer.countedBy_advance bus cycles
  change counter'.toNat = countAfter modulo first _ at hcounter
  change requests' = if first + _ < 256 then requests else requests ||| 0x04 at hrequests
  change after.overflowed = decide (256 ≤ first + _) at hoverflowed
  have hfirst : first < 256 := (bus.memory.read Address.timerCounter).toNat_lt
  have htimer : after.timer = _ := timer.timer_advance bus cycles
  have hdivider : (after.bus.memory.read Address.divider).toNat =
      ((bus.memory.read Address.divider).toNat + elapsed / 256) % 256 := by
    rw [show after.bus.memory.read Address.divider = _ from timer.divider_advance bus cycles,
      UInt8.toNat_add, UInt8.toNat_ofNat', Nat.add_mod_mod]
    rfl
  refine ⟨h.advance?_eq, timer.dividerReset_advance bus cycles,
    timer.dividerCycles_advance bus cycles, hdivider, fun hoff => ?_, fun hon => ⟨?_, ?_, ?_⟩,
    timer.sameOutside_advance bus cycles⟩
  · -- off, the counter is left as it was
    have hcounts : timer.counts bus cycles = 0 := if_neg (ne_true_of_eq_false hoff)
    rw [hcounts, Nat.add_zero] at hrequests hoverflowed
    rw [hcounts, countAfter_of_lt (by omega)] at hcounter
    refine ⟨?_, hcounter, ?_, ?_⟩
    · rw [htimer]
      exact if_neg (ne_true_of_eq_false hoff)
    · rw [hrequests, if_pos hfirst]
    · rw [hoverflowed, decide_eq_false (Nat.not_le_of_lt hfirst)]
  · rw [htimer]
    exact if_pos hon
  · -- the counts do not reach an overflow
    intro hlt
    have hcounts : timer.counts bus cycles = n := if_pos hon
    rw [hcounts] at hcounter hrequests hoverflowed
    rw [countAfter_of_lt hlt] at hcounter
    rw [if_pos hlt] at hrequests
    rw [decide_eq_false (Nat.not_le_of_lt hlt)] at hoverflowed
    exact ⟨hcounter, hrequests, hoverflowed⟩
  · -- one overflow or more, and the request is the same
    intro hge
    have hcounts : timer.counts bus cycles = n := if_pos hon
    rw [hcounts] at hcounter hrequests hoverflowed
    rw [countAfter_of_le hge] at hcounter
    rw [if_neg (Nat.not_lt.mpr hge)] at hrequests
    rw [decide_eq_true hge] at hoverflowed
    exact ⟨hcounter, hrequests, hoverflowed⟩

/-- A timer register that is reloaded at every other count, at the fastest rate. -/
def flickeringBus : Bus where
  memory :=
    let registers := [(Address.divider, 0xFF), (Address.timerCounter, 0xFE),
      (Address.timerModulo, 0xFE), (Address.timerControl, 0x05)]
    registers.foldl (fun memory (address, value) => memory.store address value) .blank
  joypad := .idle
  dividerReset := false
  serial := #[]

theorem read_flickeringBus (address : UInt16) :
    flickeringBus.memory.read address =
      if Address.timerControl = address then 0x05
      else if Address.timerModulo = address then 0xFE
      else if Address.timerCounter = address then 0xFE
      else if Address.divider = address then 0xFF
      else 0 := by
  simp only [flickeringBus, List.foldl_cons, List.foldl_nil, Memory.read_store, Memory.read_blank]

/-- In a thousand cycles the register is reloaded 31 times, and the divider wraps around. -/
theorem closedForm_advance_flickeringBus :
    Fits ⟨200, 10⟩ flickeringBus 1000 ∧
      ∃ after, advance? ⟨200, 10⟩ flickeringBus 1000 = some after ∧
        after.timer.dividerCycles = 176 ∧ after.timer.counterCycles = 2 ∧
        (after.bus.memory.read Address.divider).toNat = 3 ∧
        (after.bus.memory.read Address.timerCounter).toNat = 255 ∧
        after.bus.memory.read Address.interruptRequest = 0x04 ∧ after.overflowed = true := by
  have hcontrol : flickeringBus.memory.read Address.timerControl = 0x05 := by
    rw [read_flickeringBus]
    decide
  have hmodulo : flickeringBus.memory.read Address.timerModulo = 0xFE := by
    rw [read_flickeringBus]
    decide
  have hcounter : flickeringBus.memory.read Address.timerCounter = 0xFE := by
    rw [read_flickeringBus]
    decide
  have hdivider : flickeringBus.memory.read Address.divider = 0xFF := by
    rw [read_flickeringBus]
    decide
  have hrequests : flickeringBus.memory.read Address.interruptRequest = 0 := by
    rw [read_flickeringBus]
    decide
  have hlatch : flickeringBus.dividerReset = false := rfl
  have hfits : Fits ⟨200, 10⟩ flickeringBus 1000 := .of_lt (by decide) (by decide) _
  obtain ⟨hexact, -, hcycles, hdivided, -, hon, -⟩ := closedForm_advance hfits
  generalize (advance ⟨200, 10⟩ flickeringBus 1000).value = after at hexact hcycles hdivided hon
  rw [hcontrol, hcounter, hmodulo, hrequests, hlatch] at hon
  rw [hdivider, hlatch] at hdivided
  rw [hlatch] at hcycles
  obtain ⟨hleft, -, hreloaded⟩ := hon (by decide)
  obtain ⟨hcount, hrequested, hoverflowed⟩ := hreloaded (by decide)
  exact ⟨hfits, after, hexact, hcycles, hleft, hdivided, hcount, hrequested, hoverflowed⟩

end GameBoy.Timer
