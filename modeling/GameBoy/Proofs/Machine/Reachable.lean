import GameBoy.Proofs.Machine.Requests

/-!
# Reachable machines

The host starts a machine, with or without an image, and then makes calls in any order: ticks and
keys.  `Reachable` machines are those it may have in its hands, each with the instructions executed
so far; invariants are proved by induction along it, one lemma for each call.

What a call does besides the processor's writes is little: a tick changes `clockCells` only,
`sameOutside_tick`, and no call takes back a pending interrupt.
-/

namespace GameBoy

open Memory (SameOutside)

theorem Memory.pending_ne_zero_iff (memory : Memory) :
    memory.pending ≠ 0 ↔ ∃ i, bit memory.pending i = true := by
  constructor
  · intro hpending
    refine Classical.byContradiction fun hnone => hpending (bit_ext fun i _ => ?_)
    rw [show bit 0 i = false from Nat.zero_testBit i]
    exact Bool.eq_false_iff.mpr fun hset => hnone ⟨i, hset⟩
  · rintro ⟨i, hset⟩ hzero
    rw [hzero] at hset
    exact absurd (hset.symm.trans (Nat.zero_testBit i)) Bool.noConfusion

/-- Whoever keeps the requests and the enabled sources keeps an interrupt pending. -/
theorem KeepsRequests.pending_ne_zero {first second : Memory} (h : KeepsRequests first second)
    (henable : second.read Address.interruptEnable = first.read Address.interruptEnable)
    (hpending : first.pending ≠ 0) : second.pending ≠ 0 := by
  rw [Memory.pending_ne_zero_iff] at hpending ⊢
  obtain ⟨i, hset⟩ := hpending
  refine ⟨i, ?_⟩
  rw [Memory.bit_pending, Bool.and_eq_true, Bool.and_eq_true] at hset ⊢
  rw [henable]
  exact ⟨⟨h i hset.1.1, hset.1.2⟩, hset.2⟩

namespace Machine

/-! ## Calls of the host -/

/-- The cells that a tick changes whatever the program does. -/
def clockCells : List UInt16 :=
  [Address.divider, Address.timerCounter, Address.interruptRequest, Address.line,
    Address.lcdStatus]

theorem cpu_tick (machine : Machine) : machine.tick.value.1.cpu = machine.nextStep.cpu := by
  rw [value_tick]

theorem sameOutside_tick (machine : Machine) :
    SameOutside clockCells machine.writtenBus.memory machine.tick.value.1.bus.memory := by
  have htimed : SameOutside clockCells machine.writtenBus.memory machine.timed.bus.memory :=
    (Timer.sameOutside_advance _ _ _).mono (by decide)
  have hshown : SameOutside clockCells machine.timed.bus.memory machine.shown.memory :=
    (Ppu.sameOutside_run _ _ _).mono (by decide)
  rw [value_tick]
  exact htimed.trans hshown

theorem keepsRequests_tick (machine : Machine) :
    KeepsRequests machine.writtenBus.memory machine.tick.value.1.bus.memory := by
  have htimed : KeepsRequests machine.writtenBus.memory machine.timed.bus.memory :=
    Timer.keepsRequests_advance _ _ _
  have hshown : KeepsRequests machine.timed.bus.memory machine.shown.memory :=
    Ppu.keepsRequests_run _ _ _
  rw [value_tick]
  exact htimed.trans hshown

variable {machine : Machine}

/-- After the processor's writes a tick does not take back a pending interrupt. -/
theorem pending_tick (h : machine.writtenBus.memory.pending ≠ 0) :
    machine.tick.value.1.bus.memory.pending ≠ 0 :=
  machine.keepsRequests_tick.pending_ne_zero
    (machine.sameOutside_tick Address.interruptEnable (by decide)) h

theorem pending_press (key : Key) (h : machine.bus.memory.pending ≠ 0) :
    (machine.press key).value.bus.memory.pending ≠ 0 :=
  (machine.bus.keepsRequests_press key).pending_ne_zero
    (machine.bus.sameOutside_press key Address.interruptEnable (by decide)) h

/-- A press that alerts the joypad leaves an interrupt pending if the joypad is enabled. -/
theorem pending_press_of_alerts {key : Key} (halerts : machine.bus.joypad.pressAlerts key = true)
    (henabled : bit (machine.bus.memory.read Address.interruptEnable) 4 = true) :
    (machine.press key).value.bus.memory.pending ≠ 0 := by
  have hmemory : machine.bus.alertedMemory key = (machine.bus.memory.request .joypad).value :=
    if_pos halerts
  -- the joypad register is brought up to date after the request, which stays
  have hkept : KeepsRequests (machine.bus.memory.request .joypad).value
      (machine.bus.press key).value.memory := by
    rw [Bus.value_press, ← hmemory]
    exact .of_store (by decide) _
  have hrequested : bit ((machine.bus.press key).value.memory.read Address.interruptRequest) 4 =
      true := hkept 4 ((Ppu.bit_request _ _ .joypad).mpr (Or.inr rfl))
  have hkept : (machine.bus.press key).value.memory.read Address.interruptEnable =
      machine.bus.memory.read Address.interruptEnable :=
    machine.bus.sameOutside_press key _ (by decide)
  show (machine.bus.press key).value.memory.pending ≠ 0
  rw [Memory.pending_ne_zero_iff]
  refine ⟨4, ?_⟩
  rw [Memory.bit_pending, hrequested, hkept, henabled]
  rfl

theorem pending_release (key : Key) (h : machine.bus.memory.pending ≠ 0) :
    (machine.release key).bus.memory.pending ≠ 0 :=
  (machine.bus.keepsRequests_release key).pending_ne_zero
    (machine.bus.sameOutside_release key Address.interruptEnable (by decide)) h

/-! ## Reachable machines -/

/-- A machine as the host gets it. -/
inductive Initial : Machine → Prop
  | powerOn : Initial Machine.powerOn.value
  | start (image : ByteArray) : Initial (Machine.start image).value

/-- The instructions, with their addresses, that a call executes: one at most. -/
def executedBy (machine : Machine) : Event → List (UInt16 × Instruction)
  | .tick => Cpu.executed machine.nextStep.entries
  | .press _ | .release _ => []

/-- The machines that the host reaches by its calls, with the instructions executed on the way. -/
inductive Reachable : Machine → List (UInt16 × Instruction) → Prop
  | initial {machine : Machine} : Initial machine → Reachable machine []
  | respond {machine : Machine} {history : List (UInt16 × Instruction)} (event : Event) :
      Reachable machine history →
        Reachable (machine.respond event) (history ++ machine.executedBy event)

end Machine

end GameBoy
