import GameBoy.Cpu.Step
import GameBoy.Proofs.Bits
import GameBoy.Proofs.Bus

/-!
# Which interrupts are served, and how

A step of the processor does one of three things.  It serves an interrupt if interrupts are on and
some source is both requested and enabled, `step_of_served`; it idles if the processor is halted
and no source is, `step_of_idle`; and otherwise it executes one instruction, `step_of_running`.

Serving is described source by source, since the source of highest priority is the lowest set bit
of the pending byte, `Interrupt.highest?_eq_some_iff`.  What a step executes and serves is read off
its entries, `executed` and `acknowledged`: executing an instruction adds no more than remarks to
them, `isRemark_execute`.  `step_trichotomy` puts the three cases together with what the bus makes
of the writes.
-/

namespace GameBoy

/-! ## The source of highest priority -/

namespace Interrupt

theorem index_getElem_all {i : Nat} (h : i < all.length) : all[i].index = i := by
  have hall : ∀ i (_ : i < all.length), all[i].index = i := by decide
  exact hall i h

theorem getElem_all_index (source : Interrupt) :
    ∃ h : source.index < all.length, all[source.index] = source := by
  cases source <;> exact ⟨by decide, rfl⟩

theorem vector_eq (source : Interrupt) :
    source.vector = 0x40 + 8 * UInt16.ofNat source.index := by
  cases source <;> rfl

theorem and_mask_ne_zero (byte : UInt8) (source : Interrupt) :
    (byte &&& source.mask != 0) = bit byte source.index := by
  have hzero (i : Nat) : bit 0 i = false := Nat.zero_testBit i
  have hmask (i : Nat) : bit (byte &&& source.mask) i =
      (bit byte i && decide (i = source.index)) := by rw [bit_and, source.bit_mask]
  -- the mask has a single bit, so the product is that bit or nothing
  cases hbit : bit byte source.index with
  | false =>
      have hnone : byte &&& source.mask = 0 := by
        apply bit_ext
        intro i _
        rw [hmask, hzero]
        by_cases hi : i = source.index
        · rw [hi, hbit, Bool.false_and]
        · rw [decide_eq_false hi, Bool.and_false]
      rw [hnone]
      rfl
  | true =>
      apply bne_iff_ne.mpr
      intro hnone
      have hset := hmask source.index
      rw [hnone, hzero, hbit, decide_eq_true rfl] at hset
      exact absurd hset Bool.false_ne_true

/-- The source of highest priority is the one with the lowest bit. -/
theorem highest?_eq_some_iff {pending : UInt8} {source : Interrupt} :
    highest? pending = some source ↔
      bit pending source.index = true ∧ ∀ i < source.index, bit pending i = false := by
  -- the sources are listed in the order of their bits, so the first match has the lowest
  unfold highest?
  simp only [List.find?_eq_some_iff_getElem, and_mask_ne_zero, Bool.not_eq_true']
  constructor
  · rintro ⟨hbit, i, hi, rfl, hbefore⟩
    rw [index_getElem_all hi] at hbit ⊢
    refine ⟨hbit, fun j hj => ?_⟩
    have hclear := hbefore j hj
    rwa [index_getElem_all] at hclear
  · rintro ⟨hbit, hbefore⟩
    obtain ⟨hlt, hsource⟩ := source.getElem_all_index
    refine ⟨hbit, source.index, hlt, hsource, fun j hj => ?_⟩
    rw [index_getElem_all (Nat.lt_trans hj hlt)]
    exact hbefore j hj

end Interrupt

/-! ## Pending interrupts -/

namespace Memory

theorem bit_pending (memory : Memory) (i : Nat) :
    bit memory.pending i =
      (bit (memory.read Address.interruptRequest) i &&
        bit (memory.read Address.interruptEnable) i && decide (i < 5)) := by
  have hmask : bit 0x1F i = decide (i < 5) := by
    -- the mask is a byte: beyond its bits both sides are false
    rcases Nat.lt_or_ge i 8 with hi | hi
    · exact (by decide : ∀ i < 8, bit 0x1F i = decide (i < 5)) i hi
    · rw [bit_of_le _ hi, decide_eq_false (by omega)]
  rw [pending, bit_and, bit_and, hmask]

/-- No source is pending exactly if none of them has the highest priority. -/
theorem highest?_pending_eq_none_iff (memory : Memory) :
    Interrupt.highest? memory.pending = none ↔ memory.pending = 0 := by
  unfold Interrupt.highest?
  simp only [List.find?_eq_none, Interrupt.and_mask_ne_zero, Bool.not_eq_true]
  constructor
  · intro hnone
    -- the lowest five bits are clear because no source has its bit, the others by the mask
    apply bit_ext
    intro i _
    rw [show bit 0 i = false from Nat.zero_testBit i]
    rcases Nat.lt_or_ge i 5 with hi | hi
    · have hlt : i < Interrupt.all.length := hi
      have hclear := hnone _ (Interrupt.all.getElem_mem hlt)
      rwa [Interrupt.index_getElem_all] at hclear
    · rw [bit_pending, decide_eq_false (Nat.not_lt_of_le hi), Bool.and_false]
  · intro hzero source _
    rw [hzero]
    exact Nat.zero_testBit _

end Memory

namespace Cpu

variable {cpu : Cpu} {memory : Memory} {source : Interrupt}

/-! ## The three kinds of steps -/

/-- The source that the next step serves. -/
def served? (cpu : Cpu) (memory : Memory) : Option Interrupt :=
  if cpu.ime then Interrupt.highest? memory.pending else none

/-- Where the program goes on after an interrupt that is served now: at the next instruction, or
at the halt again if that did not happen. -/
def returnAddress (cpu : Cpu) : UInt16 := if cpu.haltBug then cpu.pc - 1 else cpu.pc

theorem served?_eq_some_iff :
    cpu.served? memory = some source ↔
      cpu.ime = true ∧ bit memory.pending source.index = true ∧
        ∀ i < source.index, bit memory.pending i = false := by
  unfold served?
  cases cpu.ime with
  | false => simp
  | true => simp [Interrupt.highest?_eq_some_iff]

theorem served?_eq_none_iff :
    cpu.served? memory = none ↔ ¬ (cpu.ime = true ∧ memory.pending ≠ 0) := by
  unfold served?
  cases cpu.ime with
  | false => simp
  | true => simp [memory.highest?_pending_eq_none_iff]

theorem pending_ne_zero_of_served (h : cpu.served? memory = some source) :
    memory.pending ≠ 0 := by
  intro hzero
  obtain ⟨-, hbit, -⟩ := served?_eq_some_iff.mp h
  rw [hzero] at hbit
  exact absurd hbit (by rw [bit]; simp)

theorem stepAwake_of_served (h : cpu.served? memory = some source) :
    cpu.stepAwake memory = { cpu.service memory source with duration := serviceCycles } := by
  unfold served? at h
  rw [stepAwake, h]

theorem stepAwake_of_running (h : cpu.served? memory = none) :
    cpu.stepAwake memory = cpu.runInstruction memory := by
  unfold served? at h
  rw [stepAwake, h]

/-- A halted processor that has something to do reports that it wakes up, and goes on as if it
had never been halted. -/
theorem stepUncounted_of_awake (h : ¬ (cpu.halted = true ∧ memory.pending = 0)) :
    cpu.stepUncounted memory =
      { { cpu with halted := false }.stepAwake memory with
        entries := (if cpu.halted then [.wokeUp] else []) ++
          ({ cpu with halted := false }.stepAwake memory).entries } := by
  unfold stepUncounted
  cases hhalted : cpu.halted with
  | false =>
      have hcpu : { cpu with halted := false } = cpu := by rw [← hhalted]
      rw [hcpu]
      rfl
  | true =>
      have hpending : ¬ (memory.pending == 0) = true := fun hzero =>
        h ⟨hhalted, beq_iff_eq.mp hzero⟩
      rw [if_pos rfl, if_neg hpending]
      rfl

theorem step_of_served (h : cpu.served? memory = some source) :
    cpu.step memory =
      { cpu := { cpu with
          pc := source.vector
          sp := cpu.sp - 2
          halted := false
          ime := false
          imeDelay := 0
          haltBug := false
          cycles := cpu.cycles + 20 }
        writes := [⟨Address.interruptRequest,
            memory.read Address.interruptRequest &&& ~~~source.mask⟩,
          ⟨cpu.sp - 1, Word.high cpu.returnAddress⟩, ⟨cpu.sp - 2, Word.low cpu.returnAddress⟩]
        entries := (if cpu.halted then [.wokeUp] else []) ++ [.servicing source cpu.pc]
        duration := 20 } := by
  have hawake : ¬ (cpu.halted = true ∧ memory.pending = 0) := fun hidle =>
    pending_ne_zero_of_served h hidle.2
  have hserved : served? { cpu with halted := false } memory = some source := h
  rw [step, stepUncounted_of_awake hawake, stepAwake_of_served hserved]
  rfl

theorem step_of_idle (hhalted : cpu.halted = true) (hpending : memory.pending = 0) :
    cpu.step memory =
      { cpu := { cpu with cycles := cpu.cycles + 4 }, duration := 4 } := by
  rw [step, stepUncounted, if_pos hhalted, if_pos (beq_iff_eq.mpr hpending)]

theorem step_of_running (h : cpu.served? memory = none)
    (hawake : ¬ (cpu.halted = true ∧ memory.pending = 0)) :
    cpu.step memory =
      let run := { cpu with halted := false }.runInstruction memory
      { run with
        cpu := { run.cpu with cycles := cpu.cycles + run.duration }
        entries := (if cpu.halted then [.wokeUp] else []) ++ run.entries } := by
  have hserved : served? { cpu with halted := false } memory = none := h
  rw [step, stepUncounted_of_awake hawake, stepAwake_of_running hserved]

/-! ## What a step executes -/

/-- A remark on the instruction being executed. -/
def IsRemark : Entry → Prop
  | .illegalOpcode .. | .loneEscape _ | .immediateStore _ | .haltBug _ => True
  | _ => False

theorem isRemark_writeOperand (cpu : Cpu) (memory : Memory) (value : UInt8) (place : Operand) :
    ∀ entry ∈ (cpu.writeOperand memory value place).entries, IsRemark entry := by
  intro entry hentry
  cases place with
  | immediate =>
      obtain rfl := List.mem_singleton.mp hentry
      trivial
  | _ => exact absurd hentry List.not_mem_nil

/-- Executing an instruction reports no more than what is odd about it. -/
theorem isRemark_execute (cpu : Cpu) (memory : Memory) (instruction : Instruction) :
    ∀ entry ∈ (cpu.execute memory instruction).entries, IsRemark entry := by
  intro entry hentry
  -- a remark comes from an immediate destination, a bad opcode or a halt that does not happen
  cases instruction with
  | load | inc | dec | shift | resetBit | setBit =>
      exact isRemark_writeOperand _ _ _ _ entry hentry
  | escape | illegal =>
      obtain rfl := List.mem_singleton.mp hentry
      trivial
  | halt =>
      simp only [execute, halt] at hentry
      split at hentry
      · obtain rfl := List.mem_singleton.mp hentry
        trivial
      · exact absurd hentry List.not_mem_nil
  | ei | call =>
      simp only [execute] at hentry
      split at hentry <;> exact absurd hentry List.not_mem_nil
  | _ => exact absurd hentry List.not_mem_nil

/-- The instructions that entries report as executed, with their addresses. -/
def executed (entries : List Entry) : List (UInt16 × Instruction) :=
  entries.filterMap fun
    | .executing pc instruction => some (pc, instruction)
    | _ => none

/-- The sources that entries report as served. -/
def acknowledged (entries : List Entry) : List Interrupt :=
  entries.filterMap fun
    | .servicing source _ => some source
    | _ => none

theorem executed_eq_nil {entries : List Entry} (h : ∀ entry ∈ entries, IsRemark entry) :
    executed entries = [] := by
  apply List.filterMap_eq_nil_iff.mpr
  intro entry hentry
  cases entry with
  | executing pc instruction => exact absurd (h _ hentry) id
  | _ => rfl

theorem acknowledged_eq_nil {entries : List Entry} (h : ∀ entry ∈ entries, IsRemark entry) :
    acknowledged entries = [] := by
  apply List.filterMap_eq_nil_iff.mpr
  intro entry hentry
  cases entry with
  | servicing source pc => exact absurd (h _ hentry) id
  | _ => rfl

theorem executed_wakeUp (halted : Bool) (entries : List Entry) :
    executed ((if halted then [.wokeUp] else []) ++ entries) = executed entries := by
  cases halted <;> rfl

theorem acknowledged_wakeUp (halted : Bool) (entries : List Entry) :
    acknowledged ((if halted then [.wokeUp] else []) ++ entries) = acknowledged entries := by
  cases halted <;> rfl

theorem executed_runInstruction (cpu : Cpu) (memory : Memory) :
    executed (cpu.runInstruction memory).entries =
      [(cpu.pc, (cpu.fetchInstruction memory).1)] := by
  have hrest := executed_eq_nil (isRemark_execute (cpu.fetchInstruction memory).2 memory
    (cpu.fetchInstruction memory).1)
  exact congrArg ((cpu.pc, (cpu.fetchInstruction memory).1) :: ·) hrest

theorem acknowledged_runInstruction (cpu : Cpu) (memory : Memory) :
    acknowledged (cpu.runInstruction memory).entries = [] := by
  have hrest := acknowledged_eq_nil (isRemark_execute (cpu.fetchInstruction memory).2 memory
    (cpu.fetchInstruction memory).1)
  exact hrest

/-- A step serves one source at most, and reports it. -/
theorem acknowledged_step (cpu : Cpu) (memory : Memory) :
    acknowledged (cpu.step memory).entries = (cpu.served? memory).toList := by
  cases hserved : cpu.served? memory with
  | some source =>
      rw [step_of_served hserved]
      exact acknowledged_wakeUp _ _
  | none =>
      by_cases hidle : cpu.halted = true ∧ memory.pending = 0
      · rw [step_of_idle hidle.1 hidle.2]
        rfl
      · rw [step_of_running hserved hidle]
        exact (acknowledged_wakeUp _ _).trans (acknowledged_runInstruction _ _)

/-- The writes that a step owes to the program: those of an instruction, or the pushes of the
return address.  The withdrawal of the request that is served comes before them. -/
def programWrites (step : Step) : List Write :=
  step.writes.drop (acknowledged step.entries).length

theorem writes_step (cpu : Cpu) (memory : Memory) :
    (cpu.step memory).writes =
      (acknowledged (cpu.step memory).entries).map (fun source =>
        ⟨Address.interruptRequest,
          memory.read Address.interruptRequest &&& ~~~source.mask⟩) ++
      programWrites (cpu.step memory) := by
  rw [programWrites, acknowledged_step]
  cases hserved : cpu.served? memory with
  | some source =>
      rw [step_of_served hserved]
      rfl
  | none => rfl

/-! ## The whole effect of a step -/

theorem bit_withdraw (requests : UInt8) (source : Interrupt) (i : Nat) :
    bit (requests &&& ~~~source.mask) i = (bit requests i && decide (i ≠ source.index)) := by
  rcases Nat.lt_or_ge i 8 with hi | hi
  · have hnot : ∀ i < 8, bit (~~~source.mask) i = !bit source.mask i := by
      cases source <;> decide
    rw [bit_and, hnot i hi, source.bit_mask, decide_not]
  · rw [bit_of_le _ hi, bit_of_le _ hi, Bool.false_and]

/-- Withdrawing a request is a write without side effects; the pushes that follow it are writes like
any other. -/
theorem writeAll_withdraw (bus : Bus) (requests : UInt8) (rest : List Write) :
    (bus.writeAll (⟨Address.interruptRequest, requests⟩ :: rest)).value =
      ({ bus with memory := bus.memory.store Address.interruptRequest requests }.writeAll
        rest).value :=
  rfl

/-- **A step serves, idles or executes.**  With interrupts on and a source pending, halted or not,
the step withdraws the request of the lowest pending source, pushes the return address and goes to
the source's vector; halted with no source pending it only counts its cycles; otherwise it executes
one instruction, and the request register holds what that instruction last wrote to it, if it
did. -/
theorem step_trichotomy (cpu : Cpu) (bus : Bus) :
    let pending := bus.memory.pending
    let requests := bus.memory.read Address.interruptRequest
    let step := cpu.step bus.memory
    let after := (bus.writeAll step.writes).value
    (cpu.ime = true ∧ pending ≠ 0 →
      ∃ (source : Interrupt) (withdrawn : UInt8),
        (bit pending source.index = true ∧ ∀ i < source.index, bit pending i = false) ∧
        (∀ i, bit withdrawn i = (bit requests i && decide (i ≠ source.index))) ∧
        executed step.entries = [] ∧ step.duration = 20 ∧
        after =
          ({ bus with memory := bus.memory.store Address.interruptRequest withdrawn }.writeAll
            [⟨cpu.sp - 1, Word.high cpu.returnAddress⟩,
              ⟨cpu.sp - 2, Word.low cpu.returnAddress⟩]).value ∧
        step.cpu = { cpu with
          pc := 0x40 + 8 * UInt16.ofNat source.index
          sp := cpu.sp - 2
          halted := false
          ime := false
          imeDelay := 0
          haltBug := false
          cycles := cpu.cycles + 20 }) ∧
    (cpu.halted = true ∧ pending = 0 →
      executed step.entries = [] ∧ step.duration = 4 ∧ after = bus ∧
        step.cpu = { cpu with cycles := cpu.cycles + 4 }) ∧
    (¬ (cpu.ime = true ∧ pending ≠ 0) → ¬ (cpu.halted = true ∧ pending = 0) →
      ∃ (instruction : Instruction) (fetched : Cpu),
        { cpu with halted := false }.fetchInstruction bus.memory = (instruction, fetched) ∧
        executed step.entries = [(cpu.pc, instruction)] ∧
        step.duration = instruction.cycles fetched.flags ∧
        step.writes = (fetched.execute bus.memory instruction).writes ∧
        step.cpu = { (fetched.execute bus.memory instruction).cpu.countDown with
          cycles := cpu.cycles + step.duration } ∧
        after.memory.read Address.interruptRequest =
          Bus.latest Address.interruptRequest requests step.writes) := by
  dsimp only
  refine ⟨?_, ?_, ?_⟩
  · intro hserving
    -- a dispatch: the lowest source is served, and acknowledged before the pushes
    cases hserved : cpu.served? bus.memory with
    | none => exact absurd hserving (served?_eq_none_iff.mp hserved)
    | some source =>
        obtain ⟨-, hlowest⟩ := served?_eq_some_iff.mp hserved
        rw [step_of_served hserved, source.vector_eq]
        refine ⟨source, _, hlowest, bit_withdraw _ source, ?_, rfl,
          writeAll_withdraw _ _ _, rfl⟩
        exact executed_wakeUp _ _
  · rintro ⟨hhalted, hpending⟩
    -- asleep: only the clock goes on
    rw [step_of_idle hhalted hpending]
    exact ⟨rfl, rfl, rfl, rfl⟩
  · intro hserving hidle
    -- execution: the request register is written like any plain cell
    have hplain : Bus.Plain Address.interruptRequest := .of_lt (by decide)
    rw [step_of_running (served?_eq_none_iff.mpr hserving) hidle]
    refine ⟨_, _, rfl, ?_, rfl, rfl, rfl, Bus.read_writeAll _ _ hplain (by decide)⟩
    exact (executed_wakeUp _ _).trans (executed_runInstruction _ _)

/-- A processor that is about to serve an interrupt after a halt that did not happen, with a stack
that ends right above the request register. -/
def alertedCpu : Cpu := { powerOn with ime := true, haltBug := true, sp := 0xFF10 }

/-- The same processor with interrupts off. -/
def deafCpu : Cpu := { alertedCpu with ime := false }

/-- A processor that waits for an interrupt. -/
def waitingCpu : Cpu := { powerOn with halted := true }

/-- A bus on which the timer and the joypad request interrupts, and the given sources are
enabled. -/
def alertedBus (enabled : UInt8) : Bus where
  memory :=
    (Memory.blank.store Address.interruptRequest 0x14).store Address.interruptEnable enabled
  joypad := .idle
  dividerReset := false
  serial := #[]

theorem read_alertedBus (enabled : UInt8) (address : UInt16) :
    (alertedBus enabled).memory.read address =
      if Address.interruptEnable = address then enabled
      else if Address.interruptRequest = address then 0x14 else 0 := by
  simp only [alertedBus, Memory.read_store, Memory.read_blank]

theorem pending_alertedBus (enabled : UInt8) :
    (alertedBus enabled).memory.pending = 0x14 &&& enabled &&& 0x1F := by
  rw [Memory.pending, read_alertedBus, read_alertedBus]
  rfl

/-- The timer is served before the joypad, and the first push wipes out the joypad's request; with
interrupts off the same processor executes the instruction at the program counter, which stays
there; and a halted one on whose bus nothing is enabled waits. -/
theorem step_trichotomy_alerted :
    ((alertedCpu.ime = true ∧ (alertedBus 0x1F).memory.pending ≠ 0) ∧
      (alertedCpu.step (alertedBus 0x1F).memory).cpu =
        { alertedCpu with pc := 0x50, sp := 0xFF0E, ime := false, haltBug := false, cycles := 20 } ∧
      ((alertedBus 0x1F).writeAll
        (alertedCpu.step (alertedBus 0x1F).memory).writes).value.memory.read
          Address.interruptRequest = 0) ∧
    ((waitingCpu.halted = true ∧ (alertedBus 0).memory.pending = 0) ∧
      (waitingCpu.step (alertedBus 0).memory).cpu = { waitingCpu with cycles := 4 }) ∧
    ((¬ (deafCpu.ime = true ∧ (alertedBus 0x1F).memory.pending ≠ 0) ∧
        ¬ (deafCpu.halted = true ∧ (alertedBus 0x1F).memory.pending = 0)) ∧
      executed (deafCpu.step (alertedBus 0x1F).memory).entries = [(0x0100, .nop)] ∧
      (deafCpu.step (alertedBus 0x1F).memory).cpu =
        { deafCpu with haltBug := false, cycles := 4 }) := by
  have hpending : (alertedBus 0x1F).memory.pending ≠ 0 := by
    rw [pending_alertedBus]
    decide
  have hquiet : (alertedBus 0).memory.pending = 0 := pending_alertedBus 0
  have hdeaf : ¬ (deafCpu.ime = true ∧ (alertedBus 0x1F).memory.pending ≠ 0) :=
    fun h => Bool.false_ne_true h.1
  have hawake : ¬ (deafCpu.halted = true ∧ (alertedBus 0x1F).memory.pending = 0) :=
    fun h => Bool.false_ne_true h.1
  refine ⟨⟨⟨rfl, hpending⟩, ?_⟩, ⟨⟨rfl, hquiet⟩, ?_⟩, ⟨⟨hdeaf, hawake⟩, ?_⟩⟩
  · obtain ⟨source, withdrawn, ⟨hset, hlowest⟩, -, -, -, hafter, hcpu⟩ :=
      (step_trichotomy alertedCpu (alertedBus 0x1F)).1 ⟨rfl, hpending⟩
    rw [pending_alertedBus] at hset hlowest
    -- bits 2 and 4 are pending, and the lower one is the bit of the timer
    obtain rfl : source = .timer := by
      cases source with
      | timer => rfl
      | joypad => exact absurd (hlowest 2 (by decide)) (by decide)
      | _ => exact absurd hset (by decide)
    refine ⟨hcpu, ?_⟩
    rw [hafter, Bus.read_writeAll _ _ ⟨by decide, by decide⟩ (by decide)]
    rfl
  · exact ((step_trichotomy waitingCpu (alertedBus 0)).2.1 ⟨rfl, hquiet⟩).2.2.2
  · obtain ⟨instruction, fetched, hfetched, hexecuted, hduration, -, hcpu, -⟩ :=
      (step_trichotomy deafCpu (alertedBus 0x1F)).2.2 hdeaf hawake
    have hopcode : (alertedBus 0x1F).memory.read 0x0100 = 0 := by
      rw [read_alertedBus]
      decide
    have hfetch : deafCpu.fetchInstruction (alertedBus 0x1F).memory =
        (.nop, { deafCpu with haltBug := false }) := by
      rw [fetchInstruction, show (alertedBus 0x1F).memory.read deafCpu.pc = 0 from hopcode]
      rfl
    obtain ⟨rfl, rfl⟩ := Prod.mk.inj (hfetched.symm.trans hfetch)
    rw [hduration] at hcpu
    exact ⟨hexecuted, hcpu⟩

end Cpu

end GameBoy
