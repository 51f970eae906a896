import Mathlib.Logic.Function.Iterate
import GameBoy.Proofs.Cpu.ProgramCounter

/-!
# A halt that does not happen

HALT under a pending interrupt with interrupts off does not halt.  The opcode after it is then
fetched without moving the program counter, so the instruction finds its operand bytes where its own
opcode stands, and an encoding of one byte is executed again by the step after that.  If the HALT
stands right behind EI, interrupts are on when it has been executed, and the next step serves one
and returns to the HALT itself.

The main statement is `missed_halt`, over three steps of a processor that is about to execute such a
HALT.
-/

namespace GameBoy

/-! ## Decoding -/

/-- The instruction of an opcode, given the byte that follows if the encoding is extended. -/
def Instruction.ofBytes (opcode next : UInt8) : Instruction :=
  match decode opcode with
  | .escape => decodeExtended next
  | instruction => instruction

theorem Instruction.ofBytes_of_escape {opcode : UInt8} (h : decode opcode = escape)
    (next : UInt8) : ofBytes opcode next = decodeExtended next := by
  rw [ofBytes, h]

theorem Instruction.ofBytes_of_ne {opcode : UInt8} (h : decode opcode ≠ escape) (next : UInt8) :
    ofBytes opcode next = decode opcode := by
  unfold ofBytes
  split
  · rename_i hescape
    exact absurd hescape h
  · rfl

namespace Memory

/-- The instruction whose opcode is at an address, fetched without moving past it: the second byte
of an extended encoding is the first one again. -/
def repeatedAt (memory : Memory) (address : UInt16) : Instruction :=
  .ofBytes (memory.read address) (memory.read address)

theorem instructionAt_eq (memory : Memory) (address : UInt16) :
    memory.instructionAt address =
      .ofBytes (memory.read address) (memory.read (address + 1)) :=
  rfl

end Memory

/-! ## The control state -/

namespace Control

variable {control : Control} {pending : Bool} {instruction : Instruction}

theorem haltBug_countDown (control : Control) : control.countDown.haltBug = control.haltBug := by
  unfold countDown
  split <;> rfl

/-- Only a halt leaves the next fetch to be repeated. -/
theorem haltBug_run (hhalt : instruction ≠ .halt) :
    (control.run pending instruction).haltBug = false := by
  rw [run, haltBug_countDown, ← Bool.not_eq_true]
  intro hbug
  exact hhalt (of_haltBug_after rfl hbug).1

/-- With nothing scheduled only a return from an interrupt switches interrupts on. -/
theorem ime_run (hdelay : control.imeDelay = 0) (hoff : control.ime = false)
    (hreti : instruction ≠ .reti) : (control.run pending instruction).ime = false := by
  by_cases hei : instruction = .ei
  · rw [hei, run_ei hdelay]
    exact hoff
  · rw [run_of_unscheduled hdelay hei]
    cases instruction with
    | reti => exact absurd rfl hreti
    | ei => exact absurd rfl hei
    | di => rfl
    | halt =>
        -- however the halt goes, it leaves the master switch alone
        unfold after
        dsimp only
        split <;> exact hoff
    | _ => exact hoff

end Control

namespace Cpu

variable {cpu : Cpu} {memory : Memory} {bus : Bus}

/-! ## The repeated fetch -/

/-- A processor that has fetched an opcode, and the second byte of an extended encoding, without
moving past the opcode. -/
def refetched (cpu : Cpu) (memory : Memory) : Cpu :=
  { cpu with
    pc := if Instruction.decode (memory.read cpu.pc) = .escape then cpu.pc + 1 else cpu.pc
    haltBug := false }

theorem fetchInstruction_of_repeated (hbug : cpu.haltBug = true) :
    cpu.fetchInstruction memory = (memory.repeatedAt cpu.pc, cpu.refetched memory) := by
  unfold fetchInstruction refetched Memory.repeatedAt Instruction.ofBytes
  rw [hbug]
  dsimp only
  cases Instruction.decode (memory.read cpu.pc) <;> rfl

/-- Behind its operand bytes a repeated instruction ends one byte before the next one. -/
theorem pc_execute_refetched (memory : Memory)
    (hbranch : (Instruction.decode (memory.read cpu.pc)).isBranch = false) :
    ((cpu.refetched memory).execute memory (memory.repeatedAt cpu.pc)).cpu.pc =
      cpu.pc + UInt16.ofNat (Instruction.encodedLength (memory.read cpu.pc) - 1) := by
  have hextended := Instruction.regular_decodeExtended (memory.read cpu.pc)
  -- the escape stands for the extended opcode as well, and is passed over once
  by_cases hescape : Instruction.decode (memory.read cpu.pc) = .escape
  · have hagain : memory.repeatedAt cpu.pc = Instruction.decodeExtended (memory.read cpu.pc) :=
      Instruction.ofBytes_of_escape hescape _
    have hpc : (cpu.refetched memory).pc = cpu.pc + 1 := if_pos hescape
    rw [hagain, pc_execute _ _ hextended (Instruction.isBranch_decodeExtended _), hpc,
      Instruction.operandLength_decodeExtended, Instruction.encodedLength, hescape]
    exact UInt16.add_zero _
  · -- any other opcode stays in front of the counter, so only its operands are passed over
    have hpc : (cpu.refetched memory).pc = cpu.pc := if_neg hescape
    rw [Memory.repeatedAt, Instruction.ofBytes_of_ne hescape,
      pc_execute _ _ (Instruction.regular_decode _) hbranch, hpc,
      Instruction.encodedLength_of_ne hescape, Nat.add_sub_cancel_left]

/-- A processor about to repeat a fetch, with interrupts off although one is pending. -/
structure Repeats (cpu : Cpu) (memory : Memory) : Prop where
  awake : cpu.halted = false
  off : cpu.ime = false
  unscheduled : cpu.imeDelay = 0
  repeats : cpu.haltBug = true
  pending : memory.pending ≠ 0

namespace Repeats

variable (h : cpu.Repeats memory)
include h

theorem served?_eq_none : cpu.served? memory = none := served?_of_off h.off memory

theorem step_eq :
    cpu.step memory =
      let again := memory.repeatedAt cpu.pc
      let outcome := (cpu.refetched memory).execute memory again
      { cpu := { outcome.cpu.countDown with cycles := cpu.cycles + again.cycles cpu.flags }
        writes := outcome.writes
        entries := .executing cpu.pc again :: outcome.entries
        duration := again.cycles cpu.flags } := by
  rw [step_of_awake h.awake h.served?_eq_none, runInstruction,
    fetchInstruction_of_repeated h.repeats]
  rfl

theorem executed_step :
    executed (cpu.step memory).entries = [(cpu.pc, memory.repeatedAt cpu.pc)] ∧
      acknowledged (cpu.step memory).entries = [] := by
  constructor
  · have hexecuted := executed_runInstruction cpu memory
    rw [fetchInstruction_of_repeated h.repeats] at hexecuted
    rw [step_of_awake h.awake h.served?_eq_none]
    exact hexecuted
  · rw [acknowledged_step, h.served?_eq_none]
    rfl

/-- What is not a branch ends one byte before the next instruction. -/
theorem pc_step (hbranch : (Instruction.decode (memory.read cpu.pc)).isBranch = false) :
    (cpu.step memory).cpu.pc =
      cpu.pc + UInt16.ofNat (Instruction.encodedLength (memory.read cpu.pc) - 1) := by
  rw [h.step_eq, ← pc_execute_refetched memory hbranch]
  exact pc_countDown _

/-- Unless it is a halt or a branch, the fetch after a repeated instruction moves on as ever and
interrupts stay off; and only STOP halts. -/
theorem control_step (hhalt : Instruction.decode (memory.read cpu.pc) ≠ .halt)
    (hbranch : (Instruction.decode (memory.read cpu.pc)).isBranch = false) :
    (cpu.step memory).cpu.haltBug = false ∧ (cpu.step memory).cpu.ime = false ∧
      ((cpu.step memory).cpu.halted = true ↔ memory.repeatedAt cpu.pc = .stop) := by
  -- a halt or a branch would come from the repeated opcode, and nothing extended is either
  have hkind : memory.repeatedAt cpu.pc ≠ .halt ∧
      (memory.repeatedAt cpu.pc).isBranch = false := by
    by_cases hescape : Instruction.decode (memory.read cpu.pc) = .escape
    · rw [Memory.repeatedAt, Instruction.ofBytes_of_escape hescape]
      exact ⟨Instruction.decodeExtended_ne_halt _, Instruction.isBranch_decodeExtended _⟩
    · rw [Memory.repeatedAt, Instruction.ofBytes_of_ne hescape]
      exact ⟨hhalt, hbranch⟩
  have hreti : memory.repeatedAt cpu.pc ≠ .reti := by
    intro hreti
    rw [hreti] at hkind
    exact Bool.noConfusion hkind.2
  have hcontrol := control_step_of_awake h.awake h.served?_eq_none
  rw [fetchInstruction_of_repeated h.repeats, bne_iff_ne.mpr h.pending] at hcontrol
  refine ⟨?_, ?_, ?_⟩
  · exact (congrArg Control.haltBug hcontrol).trans (Control.haltBug_run hkind.1)
  · exact (congrArg Control.ime hcontrol).trans (Control.ime_run h.unscheduled h.off hreti)
  · have hhalted : (cpu.control.run true (memory.repeatedAt cpu.pc)).halted = true ↔
        memory.repeatedAt cpu.pc = .stop := Control.halted_run_iff h.awake h.off
    rw [← hhalted, ← hcontrol]
    rfl

/-- An encoding of one byte is executed once more if it is still in its place. -/
theorem executed_again (hhalt : Instruction.decode (memory.read cpu.pc) ≠ .halt)
    (hbranch : (Instruction.decode (memory.read cpu.pc)).isBranch = false)
    (hlength : Instruction.encodedLength (memory.read cpu.pc) = 1) {later : Memory}
    (hkept : later.read cpu.pc = memory.read cpu.pc) :
    executed ((cpu.step memory).cpu.step later).entries = [(cpu.pc, memory.repeatedAt cpu.pc)] ∧
      acknowledged ((cpu.step memory).cpu.step later).entries = [] := by
  -- a single byte is neither the escape nor a stop: the counter stays, the processor does not
  -- sleep, and the same byte is found again
  obtain ⟨hescape, hstop⟩ := Instruction.ne_of_encodedLength_eq_one hlength
  have hagain : memory.repeatedAt cpu.pc = Instruction.decode (memory.read cpu.pc) :=
    Instruction.ofBytes_of_ne hescape _
  have hlater : later.instructionAt cpu.pc = memory.repeatedAt cpu.pc := by
    rw [Memory.instructionAt_eq, hkept, hagain, Instruction.ofBytes_of_ne hescape]
  have hpc : (cpu.step memory).cpu.pc = cpu.pc := by
    rw [h.pc_step hbranch, hlength]
    exact UInt16.add_zero _
  obtain ⟨hadvances, hoff, hhalted⟩ := h.control_step hhalt hbranch
  have hawake : (cpu.step memory).cpu.halted = false := by
    rw [← Bool.not_eq_true, hhalted, hagain]
    exact hstop
  have hserved := served?_of_off hoff later
  constructor
  · rw [executed_step_of_awake hawake hadvances hserved, hpc, hlater]
  · rw [acknowledged_step, hserved]
    rfl

end Repeats

/-! ## The halt -/

/-- A processor about to execute a HALT that does not happen. -/
structure MissesHalt (cpu : Cpu) (memory : Memory) : Prop where
  awake : cpu.halted = false
  off : cpu.ime = false
  advances : cpu.haltBug = false
  pending : memory.pending ≠ 0
  opcode : memory.read cpu.pc = 0x76

/-- A processor that has executed a HALT that did not happen. -/
def pastHalt (cpu : Cpu) : Cpu :=
  { cpu with pc := cpu.pc + 1, haltBug := true, cycles := cpu.cycles + 4 }

namespace MissesHalt

variable (h : cpu.MissesHalt bus.memory)
include h

theorem served?_eq_none : cpu.served? bus.memory = none := served?_of_off h.off bus.memory

theorem decode_eq : Instruction.decode (bus.memory.read cpu.pc) = .halt := by
  rw [h.opcode]
  rfl

/-- The halt is executed, but the processor stays awake. -/
theorem stepOn : Cpu.stepOn (cpu, bus) = (cpu.pastHalt.countDown, bus) := by
  have hfetch := fetchInstruction_of_plain h.advances h.decode_eq (by decide)
  -- a request is pending and the switch is off, which is what makes the halt pass by
  have hskips : (!cpu.ime && bus.memory.pending != 0) = true := by
    rw [h.off, Bool.not_false, Bool.true_and, bne_iff_ne]
    exact h.pending
  have hrun : cpu.runInstruction bus.memory =
      { cpu := ({ cpu with pc := cpu.pc + 1, haltBug := true } : Cpu).countDown
        entries := [.executing cpu.pc .halt, .haltBug (cpu.pc + 1)]
        duration := 4 } := by
    rw [runInstruction, hfetch]
    dsimp only [execute]
    rw [halt, if_pos hskips]
    rfl
  have hcount : { ({ cpu with pc := cpu.pc + 1, haltBug := true } : Cpu).countDown with
      cycles := cpu.cycles + 4 } = cpu.pastHalt.countDown := by
    unfold countDown pastHalt
    dsimp only
    split <;> rfl
  rw [Cpu.stepOn, step_of_awake h.awake h.served?_eq_none, hrun, hcount]
  rfl

/-- With no switch of the interrupts scheduled the halt is all that has happened. -/
theorem stepOn_of_unscheduled (hdelay : cpu.imeDelay = 0) :
    Cpu.stepOn (cpu, bus) = (cpu.pastHalt, bus) ∧ cpu.pastHalt.Repeats bus.memory := by
  have hcount : cpu.pastHalt.countDown = cpu.pastHalt := by
    rw [countDown, show cpu.pastHalt.imeDelay = 0 from hdelay]
  rw [h.stepOn, hcount]
  exact ⟨rfl, h.awake, h.off, hdelay, rfl, h.pending⟩

/-- Right behind EI the halt switches interrupts on, and the next step serves one; the address that
it pushes is that of the halt. -/
theorem served_of_scheduled (hdelay : cpu.imeDelay = 1) :
    let next := (Cpu.stepOn (cpu, bus)).1.step (Cpu.stepOn (cpu, bus)).2.memory
    ∃ source, acknowledged next.entries = [source] ∧ next.cpu.pc = source.vector ∧
      programWrites next =
        [⟨cpu.sp - 1, Word.high cpu.pc⟩, ⟨cpu.sp - 2, Word.low cpu.pc⟩] := by
  -- the switch-on of the `EI` before falls due at the end of the halt
  have hcount : cpu.pastHalt.countDown = { cpu.pastHalt with imeDelay := 0, ime := true } := by
    rw [countDown, show cpu.pastHalt.imeDelay = 1 from hdelay]
  have hon : cpu.pastHalt.countDown.ime = true := by rw [hcount]
  obtain ⟨source, hserved⟩ := exists_served hon h.pending
  -- the repeat is still due, and a dispatch takes it off the return address
  have hreturn : cpu.pastHalt.countDown.returnAddress = cpu.pc := by
    rw [hcount]
    exact UInt16.add_sub_cancel cpu.pc 1
  have hacknowledged :
      acknowledged (cpu.pastHalt.countDown.step bus.memory).entries = [source] := by
    rw [acknowledged_step, hserved]
    rfl
  rw [h.stepOn]
  refine ⟨source, hacknowledged, ?_, ?_⟩
  · rw [step_of_served hserved]
  · rw [programWrites, hacknowledged, step_of_served hserved, hreturn, hcount]
    rfl

end MissesHalt

/-! ## The opcode after the halt -/

/-- **A halt that does not happen.**  With no switch of the interrupts scheduled, HALT leaves the
processor awake behind it, and the next step executes the opcode there without having moved past it:
the second byte of an extended encoding is read where the first one is, and operand bytes from there
on.  Unless the opcode is itself a halt or a branch, the program counter ends one byte before the
next instruction, the fetch after that moves on as ever, and no interrupt is served; so an encoding
of one byte that is still in its place is executed once more.  Right behind EI the next step serves
an interrupt instead, and returns to the halt. -/
theorem missed_halt (h : cpu.MissesHalt bus.memory) :
    let state (n : Nat) := Cpu.stepOn^[n] (cpu, bus)
    let step (n : Nat) := (state n).1.step (state n).2.memory
    let place := cpu.pc + 1
    let opcode := bus.memory.read place
    let again := bus.memory.repeatedAt place
    let fetched := cpu.pastHalt.refetched bus.memory
    let outcome := fetched.execute bus.memory again
    (cpu.imeDelay = 0 →
      ((state 1).1.halted = false ∧ state 1 = (cpu.pastHalt, bus)) ∧
      (executed (step 1).entries = [(place, again)] ∧ acknowledged (step 1).entries = []) ∧
      state 2 = ({ outcome.cpu.countDown with cycles := cpu.cycles + 4 + again.cycles cpu.flags },
        (bus.writeAll outcome.writes).value) ∧
      (Instruction.decode opcode ≠ .halt → (Instruction.decode opcode).isBranch = false →
        ((state 2).1.pc = place + UInt16.ofNat (Instruction.encodedLength opcode - 1) ∧
          (state 2).1.haltBug = false) ∧
        (Instruction.encodedLength opcode = 1 →
          ∀ memory : Memory, memory.read place = opcode →
            executed ((state 2).1.step memory).entries = [(place, again)] ∧
              acknowledged ((state 2).1.step memory).entries = []))) ∧
    (cpu.imeDelay = 1 →
      ∃ source, acknowledged (step 1).entries = [source] ∧ (state 2).1.pc = source.vector ∧
        programWrites (step 1) =
          [⟨cpu.sp - 1, Word.high cpu.pc⟩, ⟨cpu.sp - 2, Word.low cpu.pc⟩]) := by
  intro state step place opcode again fetched outcome
  have hnext : state 2 = Cpu.stepOn (state 1) :=
    Function.iterate_succ_apply' Cpu.stepOn 1 (cpu, bus)
  have hcpu : (state 2).1 = (step 1).cpu := congrArg Prod.fst hnext
  refine ⟨fun hdelay => ?_, fun hdelay => ?_⟩
  · -- no switch-on is due: the halt leaves nothing but the repeat
    obtain ⟨hfirst, hrepeats⟩ := h.stepOn_of_unscheduled hdelay
    have hfirst : state 1 = (cpu.pastHalt, bus) := hfirst
    have hstep : step 1 = cpu.pastHalt.step bus.memory := by
      show (state 1).1.step (state 1).2.memory = _
      rw [hfirst]
    refine ⟨⟨?_, hfirst⟩, ?_, ?_, fun hhalt hbranch => ⟨⟨?_, ?_⟩, fun hlength memory hkept => ?_⟩⟩
    · rw [hfirst]
      exact h.awake
    · rw [hstep]
      exact hrepeats.executed_step
    · rw [hnext, hfirst, Cpu.stepOn, hrepeats.step_eq]
      rfl
    · rw [hcpu, hstep]
      exact hrepeats.pc_step hbranch
    · rw [hcpu, hstep]
      exact (hrepeats.control_step hhalt hbranch).1
    · rw [hcpu, hstep]
      exact hrepeats.executed_again hhalt hbranch hlength hkept
  · -- a switch-on is due: the dispatch comes first, and the repeat is lost
    obtain ⟨source, hserved, hvector, hpushes⟩ := h.served_of_scheduled hdelay
    refine ⟨source, hserved, ?_, hpushes⟩
    rw [hcpu]
    exact hvector

/-- A bus on which two sources are pending, with HALT and then INC A at the entry point. -/
def incAfterHalt : Bus :=
  { alertedBus 0x1F with
    memory := ((alertedBus 0x1F).memory.store 0x0100 0x76).store 0x0101 0x3C }

theorem read_incAfterHalt (address : UInt16) :
    incAfterHalt.memory.read address =
      if 0x0101 = address then 0x3C else if 0x0100 = address then 0x76
      else (alertedBus 0x1F).memory.read address := by
  rw [incAfterHalt, Memory.read_store, Memory.read_store]

theorem missesHalt_incAfterHalt {cpu : Cpu} (hpc : cpu.pc = 0x0100) (hawake : cpu.halted = false)
    (hoff : cpu.ime = false) (hbug : cpu.haltBug = false) :
    cpu.MissesHalt incAfterHalt.memory := by
  -- the program lies outside the registers, which are those of the alerted bus
  have hkept {address : UInt16} (hhalt : 0x0100 ≠ address) (hinc : 0x0101 ≠ address) :
      incAfterHalt.memory.read address = (alertedBus 0x1F).memory.read address := by
    rw [read_incAfterHalt, if_neg hinc, if_neg hhalt]
  have hpending : incAfterHalt.memory.pending = 0x14 := by
    rw [Memory.pending, hkept (by decide) (by decide), hkept (by decide) (by decide)]
    exact pending_alertedBus 0x1F
  have hopcode : incAfterHalt.memory.read cpu.pc = 0x76 := by
    rw [hpc, read_incAfterHalt]
    rfl
  exact ⟨hawake, hoff, hbug, by rw [hpending]; decide, hopcode⟩

/-- INC A is executed twice after a halt; right behind EI the address of the halt is pushed
instead. -/
theorem missed_halt_inc :
    (powerOn.MissesHalt incAfterHalt.memory ∧
      let state (n : Nat) := Cpu.stepOn^[n] (powerOn, incAfterHalt)
      (state 1).1.halted = false ∧ (state 2).1.a = 2 ∧ (state 2).1.pc = 0x0101 ∧
        executed ((state 2).1.step (state 2).2.memory).entries = [(0x0101, .inc (.register .a))]) ∧
    (let scheduled : Cpu := { powerOn with imeDelay := 1 }
      let state (n : Nat) := Cpu.stepOn^[n] (scheduled, incAfterHalt)
      scheduled.MissesHalt incAfterHalt.memory ∧
        programWrites ((state 1).1.step (state 1).2.memory) =
          [⟨0xFFFD, 0x01⟩, ⟨0xFFFC, 0x00⟩]) := by
  have hfirst : powerOn.MissesHalt incAfterHalt.memory := missesHalt_incAfterHalt rfl rfl rfl rfl
  have hsecond : ({ powerOn with imeDelay := 1 } : Cpu).MissesHalt incAfterHalt.memory :=
    missesHalt_incAfterHalt rfl rfl rfl rfl
  have hopcode : incAfterHalt.memory.read (powerOn.pc + 1) = 0x3C := by
    rw [read_incAfterHalt]
    rfl
  obtain ⟨⟨hawake, -⟩, -, hstate, hrest⟩ := (missed_halt hfirst).1 rfl
  have hagain : incAfterHalt.memory.repeatedAt (powerOn.pc + 1) = .inc (.register .a) := by
    rw [Memory.repeatedAt, hopcode]
    rfl
  rw [hopcode] at hrest
  obtain ⟨⟨hpc, -⟩, htwice⟩ := hrest (by decide) (by decide)
  obtain ⟨hthird, -⟩ := htwice (by decide) incAfterHalt.memory hopcode
  rw [hagain] at hstate
  have hbus : (Cpu.stepOn^[2] (powerOn, incAfterHalt)).2 = incAfterHalt :=
    (congrArg Prod.snd hstate).trans rfl
  refine ⟨⟨hfirst, hawake, ?_, ?_, ?_⟩, hsecond, ?_⟩
  · exact (congrArg (fun state : Cpu × Bus => state.1.a) hstate).trans rfl
  · exact hpc.trans rfl
  · rw [hbus]
    rw [hagain] at hthird
    exact hthird
  · obtain ⟨source, -, -, hpushes⟩ := (missed_halt hsecond).2 rfl
    exact hpushes.trans rfl

end Cpu

end GameBoy
