import GameBoy.Proofs.Cpu.Duration
import GameBoy.Proofs.Cpu.Encoded

/-!
# Where the program goes on

The next instruction is the one behind the encoding of this one, unless this one is a branch that is
taken: `target?` says where each of those leads.  `pc_execute_fetched` puts both together for an
instruction of the base table, whose opcode alone has been fetched; the extended table has no
branches.

The main statement, `next_step`, is about whole steps, and adds what holds of them in every state:
how long they may take, what becomes of the clock, a word of 64 bits, and that no step comes upon an
instruction that is not encoded.
-/

namespace GameBoy.Cpu

open Instruction (encodedLength)

variable (cpu : Cpu) (memory : Memory)

/-! ## Targets -/

/-- Where an instruction with its opcode at the program counter leads, if it is a branch that is
taken. -/
def target? (cpu : Cpu) (memory : Memory) : Instruction → Option UInt16
  | .jump condition | .call condition =>
    if cpu.flags.holds condition then some (memory.readWord (cpu.pc + 1)) else none
  | .jumpHl => some (cpu.pair .hl)
  | .jumpRelative condition =>
    if cpu.flags.holds condition then
      some (cpu.pc + 2 + Word.offset (memory.read (cpu.pc + 1)))
    else none
  | .ret condition => if cpu.flags.holds condition then some (memory.readWord cpu.sp) else none
  | .reti => some (memory.readWord cpu.sp)
  | .restart _ => some (memory.read cpu.pc &&& 0x38).toUInt16
  | _ => none

theorem target?_of_not_branch {instruction : Instruction} (h : instruction.isBranch = false) :
    cpu.target? memory instruction = none := by
  cases instruction with
  | jump condition | jumpHl | jumpRelative condition | call condition | ret condition | reti
  | restart vector => exact Bool.noConfusion h
  | _ => rfl

/-- The address behind an encoding whose opcode has been fetched. -/
theorem pc_add_length (n : Nat) :
    cpu.pc + 1 + UInt16.ofNat n = cpu.pc + UInt16.ofNat (1 + n) := by
  rw [UInt16.add_assoc, UInt16.ofNat_add]
  rfl

/-! ## Executing -/

/-- A branch leads to its target if it is taken, and past its operand bytes if it is not. -/
theorem pc_execute_branch {instruction : Instruction} (hbranch : instruction.isBranch = true)
    (hdecode : Instruction.decode (memory.read cpu.pc) = instruction) :
    ({ cpu with pc := cpu.pc + 1 }.execute memory instruction).cpu.pc =
      (cpu.target? memory instruction).getD
        (cpu.pc + UInt16.ofNat (1 + instruction.operandLength)) := by
  rw [← pc_add_length]
  -- each branch takes its target from somewhere else: its operands, HL, the stack or its opcode
  cases instruction with
  | jump condition | call condition =>
      cases htaken : cpu.flags.holds condition with
      | true => simp [execute, fetchWord, callTo, target?, htaken]
      | false =>
          simp only [execute, fetchWord, target?, htaken]
          rfl
  | jumpRelative condition =>
      have hbehind : cpu.pc + 1 + 1 = cpu.pc + 2 := UInt16.add_assoc ..
      cases htaken : cpu.flags.holds condition with
      | true => simp [execute, fetchByte, target?, htaken, hbehind]
      | false =>
          simp only [execute, fetchByte, target?, htaken]
          rfl
  | ret condition =>
      cases htaken : cpu.flags.holds condition with
      | true => simp [execute, returnToCaller, popWord, target?, htaken]
      | false =>
          simp only [execute, target?, htaken]
          exact (UInt16.add_zero _).symm
  | restart vector =>
      rw [Instruction.vector_of_decode hdecode]
      rfl
  | jumpHl | reti => rfl
  | _ => exact Bool.noConfusion hbranch

/-- An instruction of the base table goes on at its target, or else behind its encoding. -/
theorem pc_execute_fetched {instruction : Instruction}
    (hdecode : Instruction.decode (memory.read cpu.pc) = instruction) :
    ({ cpu with pc := cpu.pc + 1 }.execute memory instruction).cpu.pc =
      (cpu.target? memory instruction).getD
        (cpu.pc + UInt16.ofNat (1 + instruction.operandLength)) := by
  cases hbranch : instruction.isBranch with
  | true => exact cpu.pc_execute_branch memory hbranch hdecode
  | false =>
      have hregular : instruction.Regular := hdecode ▸ Instruction.regular_decode _
      rw [pc_execute _ memory hregular hbranch, cpu.target?_of_not_branch memory hbranch,
        pc_add_length]
      rfl

/-- Where the instruction at the program counter goes on, from either table. -/
theorem pc_execute_instructionAt (hbug : cpu.haltBug = false) :
    ((cpu.fetchInstruction memory).2.execute memory (cpu.fetchInstruction memory).1).cpu.pc =
      (cpu.target? memory (memory.instructionAt cpu.pc)).getD
        (cpu.pc + UInt16.ofNat (encodedLength (memory.read cpu.pc))) := by
  by_cases hescape : Instruction.decode (memory.read cpu.pc) = .escape
  -- an extended encoding has no branch and no operand bytes, so its two bytes have all been fetched
  · have hat : memory.instructionAt cpu.pc =
        Instruction.decodeExtended (memory.read (cpu.pc + 1)) := by
      rw [Memory.instructionAt, hescape]
    have hfetch : cpu.fetchInstruction memory =
        (memory.instructionAt cpu.pc, { cpu with pc := cpu.pc + 1 + 1 }) := by
      rw [fetchInstruction, hescape, hbug, hat]
      rfl
    have hlength : encodedLength (memory.read cpu.pc) = 1 + 1 := by
      rw [encodedLength, hescape]
    rw [hfetch, hlength, ← pc_add_length, hat,
      cpu.target?_of_not_branch memory (Instruction.isBranch_decodeExtended _),
      pc_execute _ memory (Instruction.regular_decodeExtended _)
        (Instruction.isBranch_decodeExtended _),
      Instruction.operandLength_decodeExtended]
    exact UInt16.add_zero _
  · -- any other opcode is fetched alone, and its operands follow
    have hfetch := fetchInstruction_of_plain hbug rfl hescape
    have hat : memory.instructionAt cpu.pc = Instruction.decode (memory.read cpu.pc) := by
      rw [← fst_fetchInstruction hbug, hfetch]
    rw [hfetch, hat, Instruction.encodedLength_of_ne hescape]
    exact cpu.pc_execute_fetched memory rfl

/-! ## Reports -/

/-- What the steps of a program report when nothing but encoded instructions is executed. -/
def IsReport : Entry → Prop
  | .wokeUp | .servicing .. | .executing .. | .illegalOpcode .. | .haltBug _ => True
  | _ => False

theorem entries_writeOperand {place : Operand} (hplace : place ≠ .immediate) (value : UInt8) :
    (cpu.writeOperand memory value place).entries = [] := by
  cases place with
  | immediate => exact absurd rfl hplace
  | _ => rfl

theorem isReport_execute {instruction : Instruction} (hregular : instruction.Regular)
    (hplain : instruction ≠ .escape) :
    ∀ entry ∈ (cpu.execute memory instruction).entries, IsReport entry := by
  intro entry hentry
  cases instruction with
  | escape => exact absurd rfl hplain
  | illegal opcode =>
      obtain rfl := List.mem_singleton.mp hentry
      trivial
  | halt =>
      rw [execute, halt] at hentry
      split at hentry
      · obtain rfl := List.mem_singleton.mp hentry
        trivial
      · exact absurd hentry List.not_mem_nil
  | ei | call condition =>
      simp only [execute] at hentry
      split at hentry <;> exact absurd hentry List.not_mem_nil
  | load dest src =>
      -- only an immediate destination would be reported, and no encoding has one
      have hnone := entries_writeOperand (cpu.readOperand memory src).2 memory hregular
      simp only [execute, hnone] at hentry
      exact absurd hentry List.not_mem_nil
  | inc place | dec place | shift op place | resetBit index place | setBit index place =>
      have hplace : place ≠ .immediate := Operand.ne_immediate_of_length hregular
      have hnone := entries_writeOperand (cpu.readOperand memory place).2 memory hplace
      simp only [execute, modify, modifyQuietly, hnone] at hentry
      exact absurd hentry List.not_mem_nil
  | _ => exact absurd hentry List.not_mem_nil

theorem isReport_wakeUp (halted : Bool) {entries : List Entry}
    (h : ∀ entry ∈ entries, IsReport entry) :
    ∀ entry ∈ (if halted then [.wokeUp] else []) ++ entries, IsReport entry := by
  intro entry hentry
  cases halted with
  | false => exact h entry hentry
  | true =>
      rcases List.mem_cons.mp hentry with rfl | hrest
      · trivial
      · exact h entry hrest

theorem isReport_step : ∀ entry ∈ (cpu.step memory).entries, IsReport entry := by
  cases hserved : cpu.served? memory with
  | some source =>
      rw [step_of_served hserved]
      apply isReport_wakeUp
      intro entry hentry
      obtain rfl := List.mem_singleton.mp hentry
      trivial
  | none =>
      -- the processor sleeps on without a report, or it executes an encoded instruction
      by_cases hidle : cpu.halted = true ∧ memory.pending = 0
      · rw [step_of_idle hidle.1 hidle.2]
        exact fun entry hentry => absurd hentry List.not_mem_nil
      · have hexecutes : cpu.Executes memory _ _ := ⟨hserved, hidle, rfl⟩
        obtain ⟨hencoded, hplain⟩ := cpu.wake.encoded_fetchInstruction memory
        rw [hexecutes.step_eq]
        apply isReport_wakeUp
        intro entry hentry
        rcases List.mem_cons.mp hentry with rfl | hremark
        · trivial
        · exact isReport_execute _ memory hencoded.regular hplain entry hremark

/-! ## Steps -/

/-- **Where a step goes on, and what it takes.**  A processor that is awake, serves nothing and is
not to repeat a fetch executes the instruction at the program counter and goes on behind its
encoding, or at its target if it is a branch that is taken.  Whatever the state, a step takes one to
six machine cycles and comes upon no instruction that is not encoded.  The clock advances by these
cycles as long as 64 bits have room for them, and there is no step in 64 bits otherwise; a clock
that wraps around advances by them in any case. -/
theorem next_step :
    let step := cpu.step memory
    let instruction := memory.instructionAt cpu.pc
    (cpu.halted = false → cpu.haltBug = false → ¬ (cpu.ime = true ∧ memory.pending ≠ 0) →
      executed step.entries = [(cpu.pc, instruction)] ∧
        step.cpu.pc =
          (cpu.target? memory instruction).getD
            (cpu.pc + UInt16.ofNat (encodedLength (memory.read cpu.pc)))) ∧
    (4 ∣ step.duration ∧ 4 ≤ step.duration ∧ step.duration ≤ 24) ∧
    (cpu.cycles + step.duration < 2 ^ 64 →
      cpu.step? memory = some step ∧ step.cpu.cycles = cpu.cycles + step.duration) ∧
    (2 ^ 64 ≤ cpu.cycles + step.duration → cpu.step? memory = none) ∧
    UInt64.ofNat step.cpu.cycles = UInt64.ofNat cpu.cycles + UInt64.ofNat step.duration ∧
    ∀ pc, .loneEscape pc ∉ step.entries ∧ .immediateStore pc ∉ step.entries := by
  intro step instruction
  refine ⟨?_, ?_, fun hroom => ⟨step?_eq_some hroom, cycles_step cpu memory⟩, step?_eq_none,
    cycles_step_wrapping cpu memory, ?_⟩
  · intro hawake hbug hserving
    have hserved : cpu.served? memory = none := served?_eq_none_iff.mpr hserving
    refine ⟨executed_step_of_awake hawake hbug hserved, ?_⟩
    show (cpu.step memory).cpu.pc = _
    rw [step_of_awake hawake hserved, ← cpu.pc_execute_instructionAt memory hbug]
    exact pc_countDown _
  · obtain ⟨hdvd, hge, hle⟩ := duration_step cpu memory
    exact ⟨hdvd, hge, hle⟩
  · intro pc
    -- neither entry is among the reports of a step
    exact ⟨cpu.isReport_step memory _, cpu.isReport_step memory _⟩

/-! ### A step on its own operand bytes -/

/-- A memory with a relative jump at the entry point, two bytes back onto itself. -/
def loopMemory : Memory := (Memory.blank.store 0x0100 0x18).store 0x0101 0xFE

theorem read_loopMemory (address : UInt16) :
    loopMemory.read address =
      if 0x0101 = address then 0xFE else if 0x0100 = address then 0x18 else 0 := by
  simp only [loopMemory, Memory.read_store, Memory.read_blank]

/-- The jump goes on at its own opcode. -/
theorem next_step_loop :
    (powerOn.halted = false ∧ powerOn.haltBug = false ∧
      ¬ (powerOn.ime = true ∧ loopMemory.pending ≠ 0)) ∧
    executed (powerOn.step loopMemory).entries = [(0x0100, .jumpRelative none)] ∧
      (powerOn.step loopMemory).cpu.pc = 0x0100 ∧
      powerOn.step? loopMemory = some (powerOn.step loopMemory) := by
  have hserving : ¬ (powerOn.ime = true ∧ loopMemory.pending ≠ 0) := fun h =>
    Bool.false_ne_true h.1
  have hopcode : loopMemory.read powerOn.pc = 0x18 := by
    rw [read_loopMemory]
    rfl
  have hdistance : loopMemory.read (powerOn.pc + 1) = 0xFE := by
    rw [read_loopMemory]
    rfl
  have hat : loopMemory.instructionAt powerOn.pc = .jumpRelative none := by
    rw [Memory.instructionAt, hopcode]
    rfl
  have hclock : powerOn.cycles = 0 := rfl
  obtain ⟨hnext, hduration, hroom, -⟩ := next_step powerOn loopMemory
  obtain ⟨hexecuted, hpc⟩ := hnext rfl rfl hserving
  rw [hat] at hexecuted hpc
  refine ⟨⟨rfl, rfl, hserving⟩, hexecuted, ?_, (hroom ?_).1⟩
  · rw [hpc, target?, hdistance]
    rfl
  · omega

end GameBoy.Cpu
