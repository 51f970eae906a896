import GameBoy.Proofs.Cpu.Service
import GameBoy.Proofs.Machine.Tick
import GameBoy.Proofs.Video.Requests

/-!
# No interrupt request is lost

Within one tick the request register is written by the processor, the timer and the video unit, and
between ticks by the joypad.  All but the processor only ever set bits in it, which `KeepsRequests`
says of two memories, operation by operation.

The processor clears a bit in two ways: it serves the source, which it reports, or the program
writes the register, be it by a push; both are in `Withdraws`.  So a request that is set before a
tick is set after it unless the tick withdraws it, `requests_tick`, and by induction it survives
any run without such a tick, `requests_kept`.
-/

namespace GameBoy

open Memory (SameOutside)

/-! ## Operations that only set bits -/

/-- Every request that is set in the first memory is set in the second. -/
def KeepsRequests (first second : Memory) : Prop :=
  ∀ i, bit (first.read Address.interruptRequest) i = true →
    bit (second.read Address.interruptRequest) i = true

namespace KeepsRequests

variable {first second third : Memory}

protected theorem refl (memory : Memory) : KeepsRequests memory memory :=
  fun _ h => h

protected theorem trans (h : KeepsRequests first second) (h' : KeepsRequests second third) :
    KeepsRequests first third :=
  fun i hi => h' i (h i hi)

theorem of_sameOutside {cells : List UInt16} (h : SameOutside cells first second)
    (hcells : Address.interruptRequest ∉ cells) : KeepsRequests first second := by
  intro i hi
  rwa [h _ hcells]

theorem of_store {memory : Memory} {address : UInt16} (h : address ≠ Address.interruptRequest)
    (value : UInt8) : KeepsRequests memory (memory.store address value) := by
  intro i hi
  rwa [memory.read_store_of_ne h]

theorem of_request (memory : Memory) (source : Interrupt) :
    KeepsRequests memory (memory.request source).value :=
  fun i hi => (Ppu.bit_request memory i source).mpr (Or.inl hi)

end KeepsRequests

/-! ### The timer -/

namespace Timer

theorem keepsRequests_next (counting : Counting) :
    KeepsRequests counting.memory counting.next.value.memory := by
  obtain ⟨memory, overflowed⟩ := counting
  unfold Counting.next
  dsimp only
  -- a full counter is reloaded and asks for its interrupt, any other only goes up
  split
  · have hreload : KeepsRequests memory
        (memory.store Address.timerCounter (memory.read Address.timerModulo)) :=
      .of_store (by decide) _
    exact hreload.trans (.of_request _ .timer)
  · exact .of_store (by decide) _

theorem keepsRequests_count (n : Nat) (memory : Memory) :
    KeepsRequests memory (count n memory).value.memory := by
  unfold count
  induction n with
  | zero => exact .refl memory
  | succ n ih =>
      rw [Nat.repeat, Logged.value_bind]
      exact ih.trans (keepsRequests_next _)

theorem keepsRequests_advance (timer : Timer) (bus : Bus) (cycles : Nat) :
    KeepsRequests bus.memory (timer.advance bus cycles).value.bus.memory := by
  obtain ⟨n, hmemory⟩ := timer.exists_count_advance bus cycles
  rw [hmemory]
  have hdivider : KeepsRequests bus.memory
      (countDivider (timer.elapsed bus cycles / 256) bus.memory) := .of_store (by decide) _
  exact hdivider.trans (keepsRequests_count n _)

end Timer

/-! ### The video unit -/

namespace Ppu

namespace Run

theorem keepsRequests_updateMode (run : Run) :
    KeepsRequests run.memory run.updateMode.value.memory :=
  fun i hi => (requests_updateMode run i).mpr (Or.inl hi)

theorem keepsRequests_nextLine (run : Run) :
    KeepsRequests run.memory run.nextLine.value.memory := by
  intro i hi
  rw [memory_nextLine]
  exact (requests_enterLine _ _ i).mpr (Or.inl hi)

theorem keepsRequests_advance (run : Run) (dots : Nat) :
    KeepsRequests run.memory (run.advance dots).value.memory := by
  rcases Nat.lt_or_ge (run.ppu.dot + dots) dotsPerLine with hlt | hge
  · rw [advance_of_lt run hlt]
    generalize run.ppu.dot + dots = dot
    exact keepsRequests_updateMode (run.setDot dot)
  · rw [advance_of_le run hge, Logged.value_bind]
    generalize run.ppu.dot + dots - dotsPerLine = dot
    exact (keepsRequests_nextLine (run.setDot dot)).trans (keepsRequests_updateMode _)

theorem keepsRequests_walk (run : Run) (dots : Nat) :
    KeepsRequests run.memory (walk dots run).value.memory :=
  walk_induction (P := fun other => KeepsRequests run.memory other.memory)
    (fun other dots _ h => h.trans (keepsRequests_advance other dots)) dots run (.refl _)

end Run

theorem keepsRequests_compareLine (memory : Memory) (line : UInt8) :
    KeepsRequests memory (compareLine memory line).value :=
  fun i hi => (requests_compareLine memory i line).mpr (Or.inl hi)

theorem keepsRequests_switchOn (ppu : Ppu) (memory : Memory) :
    KeepsRequests memory (ppu.switchOn memory).value.memory := by
  cases hon : ppu.lcdOn with
  | false =>
      rw [value_switchOn_of_dark hon]
      have hline : KeepsRequests memory (memory.store Address.line 0) := .of_store (by decide) 0
      exact hline.trans (keepsRequests_compareLine _ 0)
  | true =>
      rw [switchOn_of_lcdOn hon]
      exact .refl memory

theorem keepsRequests_switchOff (ppu : Ppu) (memory : Memory) :
    KeepsRequests memory (ppu.switchOff memory).value.memory := by
  have hline : KeepsRequests memory (memory.store Address.line 0) := .of_store (by decide) 0
  exact hline.trans (.of_sameOutside (sameOutside_storeMode _ .hblank) (by decide))

theorem keepsRequests_run (ppu : Ppu) (memory : Memory) (cycles : Nat) :
    KeepsRequests memory (ppu.run memory cycles).value.memory := by
  cases henabled : LcdControl.lcdEnabled memory.lcdControl with
  | false =>
      rw [run_of_disabled henabled]
      exact keepsRequests_switchOff ppu memory
  | true =>
      rw [run_of_enabled henabled, Logged.value_bind]
      exact (keepsRequests_switchOn ppu memory).trans (Run.keepsRequests_walk _ cycles)

end Ppu

/-! ### Keys -/

namespace Bus

variable (bus : Bus) (key : Key)

theorem keepsRequests_refreshJoypad : KeepsRequests bus.memory bus.refreshJoypad.memory :=
  .of_store (by decide) _

theorem keepsRequests_press : KeepsRequests bus.memory (bus.press key).value.memory := by
  have halerted : KeepsRequests bus.memory (bus.alertedMemory key) := by
    unfold alertedMemory
    split
    · exact .of_request bus.memory .joypad
    · exact .refl bus.memory
  rw [value_press]
  exact halerted.trans (keepsRequests_refreshJoypad { bus with
    memory := bus.alertedMemory key
    joypad := bus.joypad.press key })

theorem keepsRequests_release : KeepsRequests bus.memory (bus.release key).memory :=
  keepsRequests_refreshJoypad { bus with joypad := bus.joypad.release key }

end Bus

/-! ## Ticks -/

namespace Machine

/-- The request register. -/
def requests (machine : Machine) : UInt8 := machine.bus.memory.read Address.interruptRequest

/-- The sources that the next tick serves. -/
def acknowledged (machine : Machine) : List Interrupt :=
  Cpu.acknowledged machine.nextStep.entries

/-- The next tick may clear a request: the program writes the request register, or the source is
served. -/
def Withdraws (machine : Machine) (i : Nat) : Prop :=
  (∃ w ∈ Cpu.programWrites machine.nextStep, w.address = Address.interruptRequest) ∨
    ∃ source ∈ machine.acknowledged, source.index = i

theorem acknowledged_eq (machine : Machine) :
    machine.acknowledged = (machine.cpu.served? machine.bus.memory).toList :=
  Cpu.acknowledged_step _ _

/-- The processor withdraws the request that it serves, before the program writes anything. -/
theorem writtenBus_eq (machine : Machine) :
    machine.writtenBus =
      (Bus.writeAll (match machine.cpu.served? machine.bus.memory with
        | none => machine.bus
        | some source =>
          { machine.bus with
            memory := machine.bus.memory.store Address.interruptRequest
              (machine.requests &&& ~~~source.mask) })
        (Cpu.programWrites machine.nextStep)).value := by
  have hwrites := Cpu.writes_step machine.cpu machine.bus.memory
  rw [Cpu.acknowledged_step] at hwrites
  unfold writtenBus nextStep
  rw [hwrites]
  -- the withdrawal, if there is one, is the first of the writes
  cases machine.cpu.served? machine.bus.memory with
  | none => rfl
  | some source => exact Cpu.writeAll_withdraw _ _ _

/-- Of the requests that no tick withdraws, the processor clears none. -/
theorem requests_writtenBus {machine : Machine} {i : Nat} (hwithdraws : ¬ machine.Withdraws i)
    (h : bit machine.requests i = true) :
    bit (machine.writtenBus.memory.read Address.interruptRequest) i = true := by
  have hprogram : ∀ w ∈ Cpu.programWrites machine.nextStep,
      w.address ≠ Address.interruptRequest :=
    fun w hw heq => hwithdraws (Or.inl ⟨w, hw, heq⟩)
  have hserved : ∀ source ∈ machine.acknowledged, i ≠ source.index :=
    fun source hsource heq => hwithdraws (Or.inr ⟨source, hsource, heq.symm⟩)
  rw [acknowledged_eq] at hserved
  -- no write of the program reaches the register, so only the withdrawal is left to look at
  rw [writtenBus_eq, Bus.read_writeAll_of_forall_ne _ _ ⟨by decide, by decide⟩ hprogram]
  cases hsource : machine.cpu.served? machine.bus.memory with
  | none => exact h
  | some source =>
      have hne : i ≠ source.index :=
        hserved source (by rw [hsource]; exact List.mem_singleton_self source)
      dsimp only
      rw [Memory.read_store_self, Cpu.bit_withdraw, h, decide_eq_true hne]
      rfl

/-- A tick keeps the requests that it does not withdraw. -/
theorem requests_tick {machine : Machine} {i : Nat} (hwithdraws : ¬ machine.Withdraws i)
    (h : bit machine.requests i = true) : bit machine.tick.value.1.requests i = true := by
  have htimed : KeepsRequests machine.writtenBus.memory machine.timed.bus.memory :=
    Timer.keepsRequests_advance _ _ _
  have hshown : KeepsRequests machine.timed.bus.memory machine.shown.memory :=
    Ppu.keepsRequests_run _ _ _
  rw [value_tick]
  exact (htimed.trans hshown) i (requests_writtenBus hwithdraws h)

/-- A tick serves one source at most, and only one that is pending while interrupts are on. -/
theorem acknowledged_spec (machine : Machine) :
    machine.acknowledged.length ≤ 1 ∧
      ∀ source ∈ machine.acknowledged, machine.cpu.ime = true ∧
        bit machine.bus.memory.pending source.index = true := by
  rw [acknowledged_eq]
  cases hserved : machine.cpu.served? machine.bus.memory with
  | none => exact ⟨Nat.zero_le 1, fun source hsource => absurd hsource List.not_mem_nil⟩
  | some source =>
      refine ⟨Nat.le_refl 1, fun other hother => ?_⟩
      obtain rfl : other = source := List.mem_singleton.mp hother
      obtain ⟨hime, hpending, -⟩ := Cpu.served?_eq_some_iff.mp hserved
      exact ⟨hime, hpending⟩

/-! ## Runs -/

/-- A call of the host. -/
inductive Event
  | tick
  | press (key : Key)
  | release (key : Key)
  deriving DecidableEq, Repr

/-- The machine after a call. -/
def respond (machine : Machine) : Event → Machine
  | .tick => machine.tick.value.1
  | .press key => (machine.press key).value
  | .release key => machine.release key

theorem requests_respond {machine : Machine} {event : Event} {i : Nat}
    (hwithdraws : ¬ (event = .tick ∧ machine.Withdraws i)) (h : bit machine.requests i = true) :
    bit (machine.respond event).requests i = true := by
  cases event with
  | tick => exact requests_tick (fun hmay => hwithdraws ⟨rfl, hmay⟩) h
  | press key => exact machine.bus.keepsRequests_press key i h
  | release key => exact machine.bus.keepsRequests_release key i h

/-- A request outlives every run in which no tick withdraws it. -/
theorem requests_foldl_respond (machine : Machine) (events : List Event) {i : Nat}
    (h : bit machine.requests i = true)
    (hwithdraws : ∀ before after, events = before ++ .tick :: after →
      ¬ (before.foldl respond machine).Withdraws i) :
    bit (events.foldl respond machine).requests i = true := by
  induction events generalizing machine with
  | nil => exact h
  | cons event rest ih =>
      -- a tick of the rest that withdraws the request would do so in the whole run
      apply ih (machine.respond event)
      · apply requests_respond _ h
        rintro ⟨rfl, hmay⟩
        exact hwithdraws [] rest rfl hmay
      · intro before after hrest
        exact hwithdraws (event :: before) after (by rw [hrest, List.cons_append])

/-- **No request is lost.**  Whatever the state and the run, a request that is set before a call is
set after it, except that a tick clears it when the program writes the request register or the
source is served; so it outlives every run without such a tick.  A tick serves one source at
most, one that was pending at its start with interrupts on, and apart from the withdrawal of that
request all writes of the processor are the program's. -/
theorem requests_kept (machine : Machine) (events : List Event) :
    (∀ before event after, events = before ++ event :: after →
      let current := before.foldl respond machine
      (∀ i, bit current.requests i = true → bit (current.respond event).requests i = true ∨
        (event = .tick ∧ current.Withdraws i)) ∧
      (event = .tick →
        current.acknowledged.length ≤ 1 ∧
        (∀ source ∈ current.acknowledged, current.cpu.ime = true ∧
          bit current.bus.memory.pending source.index = true) ∧
        current.nextStep.writes =
          current.acknowledged.map (fun source =>
            ⟨Address.interruptRequest, current.requests &&& ~~~source.mask⟩) ++
          Cpu.programWrites current.nextStep)) ∧
    ∀ i, bit machine.requests i = true → bit (events.foldl respond machine).requests i = true ∨
      ∃ before after, events = before ++ .tick :: after ∧
        (before.foldl respond machine).Withdraws i := by
  refine ⟨?_, ?_⟩
  · intro before event after _
    dsimp only
    refine ⟨fun i hset => ?_, fun _ => ?_⟩
    · rw [or_iff_not_imp_right]
      exact fun hwithdraws => requests_respond hwithdraws hset
    · obtain ⟨hlength, hpending⟩ := (before.foldl respond machine).acknowledged_spec
      exact ⟨hlength, hpending, Cpu.writes_step _ _⟩
  · intro i hset
    -- if no tick of the run may withdraw the request, every event keeps it
    rw [or_iff_not_imp_right]
    intro hnone
    apply requests_foldl_respond machine events hset
    intro before after hevents hmay
    exact hnone ⟨before, after, hevents, hmay⟩

/-- A machine on which the timer and the joypad request interrupts, with interrupts on. -/
def alertedMachine : Machine where
  cpu := { Cpu.powerOn with ime := true }
  ppu := .powerOn
  timer := .powerOn
  bus := Cpu.alertedBus 0x1F
  frames := 0

theorem served_alertedMachine :
    alertedMachine.cpu.served? alertedMachine.bus.memory = some .timer := by
  have hpending : alertedMachine.bus.memory.pending = 0x14 := Cpu.pending_alertedBus 0x1F
  rw [Cpu.served?_eq_some_iff, hpending]
  exact ⟨rfl, by decide, by decide⟩

/-- The tick serves the timer and leaves the request of the joypad. -/
theorem requests_kept_joypad :
    (bit alertedMachine.requests 4 = true ∧ ¬ alertedMachine.Withdraws 4) ∧
      alertedMachine.acknowledged = [.timer] ∧
      bit (alertedMachine.respond .tick).requests 4 = true := by
  have hset : bit alertedMachine.requests 4 = true := by
    rw [requests, alertedMachine, Cpu.read_alertedBus]
    decide
  have hserved : alertedMachine.acknowledged = [.timer] := by
    rw [acknowledged_eq, served_alertedMachine]
    rfl
  -- the dispatch of the timer pushes to cells away from the register
  have hprogram : Cpu.programWrites alertedMachine.nextStep =
      [⟨0xFFFD, 0x01⟩, ⟨0xFFFC, 0x00⟩] := by
    rw [Cpu.programWrites, nextStep, Cpu.step_of_served served_alertedMachine]
    rfl
  have hwithdraws : ¬ alertedMachine.Withdraws 4 := by
    rw [Withdraws, hprogram, hserved]
    decide
  obtain ⟨hcalls, -⟩ := requests_kept alertedMachine [.tick]
  obtain ⟨hkept, -⟩ := hcalls [] .tick [] rfl
  exact ⟨⟨hset, hwithdraws⟩, hserved, (hkept 4 hset).resolve_right fun h => hwithdraws h.2⟩

end Machine

end GameBoy
