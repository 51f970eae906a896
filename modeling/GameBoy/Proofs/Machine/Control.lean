import GameBoy.Proofs.Cpu.EnableDelay
import GameBoy.Proofs.Machine.LockStep
import GameBoy.Proofs.Machine.Reachable

/-!
# The control state of reachable machines

What the processor does next is up to four fields, its control state, and they do not take any
values: `Controlled` says how they hang together, with the interrupts that are pending, and with the
instruction that was executed last.  Every call keeps it, `Controlled.respond`, so it holds of all
reachable machines, and `control_of_reachable` spells it out.

The cases of a tick are those of a step of the processor.  Serving clears the three fields that
matter, idling changes none, and what an instruction makes of them is `Control.run`; a halt that
does not happen leaves memory alone, so the interrupt that prevented it is pending after the
tick.
-/

namespace GameBoy.Machine

open Memory (SameOutside)

/-- The control state is sound, and it fits the last instruction and the pending interrupts: a
switch is scheduled by EI, and a halt that did not happen was prevented by an interrupt.  Interrupts
can only be on by then if EI came right before the halt. -/
structure Controlled (machine : Machine) (last? : Option (UInt16 × Instruction)) : Prop where
  sound : machine.cpu.control.Sound
  of_scheduled : machine.cpu.imeDelay = 1 → ∃ address, last? = some (address, .ei)
  pending : machine.cpu.haltBug = true → machine.bus.memory.pending ≠ 0
  of_haltBug : machine.cpu.haltBug = true → machine.cpu.ime = true →
    last? = some (machine.cpu.pc - 1, .halt)

variable {machine : Machine} {last? : Option (UInt16 × Instruction)}

/-- With nothing scheduled and no fetch to repeat there is nothing to say. -/
theorem controlled_of_clear (hdelay : machine.cpu.imeDelay = 0)
    (hbug : machine.cpu.haltBug = false) : machine.Controlled last? where
  sound := .of_clear hdelay hbug
  of_scheduled hone := absurd (hdelay.symm.trans hone) Nat.zero_ne_one
  pending hset := absurd (hbug.symm.trans hset) Bool.false_ne_true
  of_haltBug hset := absurd (hbug.symm.trans hset) Bool.false_ne_true

theorem Initial.controlled (h : Initial machine) : machine.Controlled none := by
  cases h <;> exact controlled_of_clear rfl rfl

/-! ## Ticks -/

/-- A tick that serves an interrupt executes nothing, pushes the return address, and lets the
processor start over at the vector of the source. -/
theorem tick_of_served {source : Interrupt}
    (hserved : machine.cpu.served? machine.bus.memory = some source) :
    machine.acknowledged = [source] ∧ machine.executedBy .tick = [] ∧
      Cpu.programWrites machine.nextStep =
        [⟨machine.cpu.sp - 1, Word.high machine.cpu.returnAddress⟩,
          ⟨machine.cpu.sp - 2, Word.low machine.cpu.returnAddress⟩] ∧
      (machine.respond .tick).cpu = { machine.cpu with
        pc := source.vector
        sp := machine.cpu.sp - 2
        halted := false
        ime := false
        imeDelay := 0
        haltBug := false
        cycles := machine.cpu.cycles + 20 } := by
  have hstep : machine.nextStep = _ := Cpu.step_of_served hserved
  refine ⟨?_, ?_, ?_, ?_⟩
  · rw [acknowledged_eq, hserved]
    rfl
  · rw [executedBy, hstep]
    exact Cpu.executed_wakeUp _ _
  · rw [Cpu.programWrites, hstep, Cpu.acknowledged_wakeUp]
    rfl
  · rw [respond, cpu_tick, hstep]

theorem controlled_tick_of_served {source : Interrupt}
    (hserved : machine.cpu.served? machine.bus.memory = some source) :
    (machine.respond .tick).Controlled last? := by
  obtain ⟨-, -, -, hcpu⟩ := tick_of_served hserved
  apply controlled_of_clear
  · rw [hcpu]
  · rw [hcpu]

/-- A halted processor has nothing scheduled, and no fetch to repeat. -/
theorem Controlled.of_halted (h : machine.Controlled last?) (hhalted : machine.cpu.halted = true) :
    machine.cpu.imeDelay = 0 ∧ machine.cpu.haltBug = false := by
  constructor
  · refine h.sound.delay_eq.resolve_right fun hone => ?_
    have hawake : machine.cpu.halted = false := (h.sound.of_scheduled hone).2.1
    exact absurd (hhalted.symm.trans hawake) Bool.noConfusion
  · refine Bool.eq_false_iff.mpr fun hbug => ?_
    have hawake : machine.cpu.halted = false := h.sound.not_halted hbug
    exact absurd (hhalted.symm.trans hawake) Bool.noConfusion

theorem Controlled.tick_of_idle (h : machine.Controlled last?)
    (hhalted : machine.cpu.halted = true) (hpending : machine.bus.memory.pending = 0) :
    (machine.respond .tick).Controlled last? := by
  -- asleep, nothing is scheduled and no repeat is due, and the tick leaves it so
  obtain ⟨hdelay, hbug⟩ := h.of_halted hhalted
  have hcpu : (machine.respond .tick).cpu = _ :=
    (cpu_tick machine).trans (congrArg (·.cpu) (Cpu.step_of_idle hhalted hpending))
  apply controlled_of_clear
  · rw [hcpu]
    exact hdelay
  · rw [hcpu]
    exact hbug

theorem Controlled.tick_of_running (h : machine.Controlled last?)
    (hserved : machine.cpu.served? machine.bus.memory = none)
    (hbusy : ¬ (machine.cpu.halted = true ∧ machine.bus.memory.pending = 0)) :
    (machine.respond .tick).Controlled
      (some (machine.cpu.pc, (machine.cpu.wake.fetchInstruction machine.bus.memory).1)) := by
  have hwoken : machine.cpu.wake.served? machine.bus.memory = none := hserved
  have hawake : machine.cpu.wake.halted = false := rfl
  have hstep : machine.nextStep = _ := Cpu.step_of_woken hserved hbusy
  have hrun := Cpu.step_of_awake hawake hwoken
  have hcpu : (machine.respond .tick).cpu = (machine.cpu.wake.step machine.bus.memory).cpu := by
    rw [respond, cpu_tick, hstep]
  have hcontrol := Cpu.control_step_of_awake hawake hwoken
  rw [← hcpu] at hcontrol
  have hsound : machine.cpu.wake.control.Sound := h.sound.wake
  -- what holds of the control state is read off `Control.run`, through its fields
  refine ⟨?_, fun hone => ?_, fun hbug => ?_, fun hbug hime => ?_⟩
  · rw [hcontrol]
    exact hsound.run rfl
  · have hone : (machine.respond .tick).cpu.control.imeDelay = 1 := hone
    rw [hcontrol] at hone
    obtain ⟨hei, -⟩ := hsound.of_scheduled_run hone
    exact ⟨machine.cpu.pc, by rw [hei]⟩
  · have hbug : (machine.respond .tick).cpu.control.haltBug = true := hbug
    rw [hcontrol] at hbug
    obtain ⟨hhalt, hpending, -⟩ := hsound.of_haltBug_run hbug
    -- a halt writes nothing, so what was pending before it still is
    have hwrites : machine.nextStep.writes = [] := by
      rw [hstep, hrun]
      exact Cpu.writes_runInstruction_of_halt hhalt
    apply pending_tick
    rw [writtenBus, hwrites]
    exact bne_iff_ne.mp hpending
  · have hbug : (machine.respond .tick).cpu.control.haltBug = true := hbug
    have hime : (machine.respond .tick).cpu.control.ime = true := hime
    rw [hcontrol] at hbug hime
    obtain ⟨hhalt, -, -, hbefore⟩ := hsound.of_haltBug_run hbug
    -- no repeat was due before, so the counter has passed the halt
    have hpc : (machine.respond .tick).cpu.pc = machine.cpu.pc + 1 := by
      rw [hcpu, hrun]
      exact Cpu.pc_runInstruction_of_halt (hbefore hime) hhalt
    rw [hpc, hhalt, UInt16.add_sub_cancel]

/-- What a tick executes when it neither serves nor idles. -/
theorem executedBy_tick_of_running (hserved : machine.cpu.served? machine.bus.memory = none)
    (hbusy : ¬ (machine.cpu.halted = true ∧ machine.bus.memory.pending = 0)) :
    machine.executedBy .tick =
      [(machine.cpu.pc, (machine.cpu.wake.fetchInstruction machine.bus.memory).1)] := by
  rw [executedBy, nextStep, Cpu.step_of_running hserved hbusy]
  exact (Cpu.executed_wakeUp _ _).trans (Cpu.executed_runInstruction _ _)

theorem Controlled.tick (h : machine.Controlled last?) :
    (machine.respond .tick).Controlled ((machine.executedBy .tick).getLast?.or last?) := by
  -- every tick is one of the three kinds of steps
  cases hserved : machine.cpu.served? machine.bus.memory with
  | some source => exact controlled_tick_of_served hserved
  | none =>
      by_cases hidle : machine.cpu.halted = true ∧ machine.bus.memory.pending = 0
      · rw [executedBy, nextStep, Cpu.step_of_idle hidle.1 hidle.2]
        exact h.tick_of_idle hidle.1 hidle.2
      · rw [executedBy_tick_of_running hserved hidle]
        exact h.tick_of_running hserved hidle

/-! ## All runs -/

theorem Controlled.respond (h : machine.Controlled last?) (event : Event) :
    (machine.respond event).Controlled ((machine.executedBy event).getLast?.or last?) := by
  -- a key may add a request but withdraws none
  cases event with
  | tick => exact h.tick
  | press key =>
      have hpending (hbug : machine.cpu.haltBug = true) := pending_press key (h.pending hbug)
      exact ⟨h.sound, h.of_scheduled, hpending, h.of_haltBug⟩
  | release key =>
      have hpending (hbug : machine.cpu.haltBug = true) := pending_release key (h.pending hbug)
      exact ⟨h.sound, h.of_scheduled, hpending, h.of_haltBug⟩

variable {history : List (UInt16 × Instruction)}

theorem Reachable.controlled (h : Reachable machine history) :
    machine.Controlled history.getLast? := by
  induction h with
  | initial hinitial => exact hinitial.controlled
  | respond event _ ih =>
      rw [List.getLast?_append]
      exact ih.respond event

/-- **The control state of reachable machines.**  A switch of the interrupts is scheduled for the
next instruction at most, and then EI was executed last, by a processor that is awake, with
interrupts off and no fetch to repeat.  A fetch is to be repeated only while the processor is awake
and an interrupt is pending; and if interrupts are on by then, the next tick serves one, and pushes
the address of the halt itself. -/
theorem control_of_reachable (h : Reachable machine history) :
    let cpu := machine.cpu
    (cpu.imeDelay = 0 ∨ cpu.imeDelay = 1) ∧
    (cpu.imeDelay = 1 → cpu.ime = false ∧ cpu.halted = false ∧ cpu.haltBug = false ∧
      ∃ address, history.getLast? = some (address, .ei)) ∧
    ¬ (cpu.halted = true ∧ cpu.haltBug = true) ∧
    (cpu.haltBug = true →
      machine.bus.memory.read Address.interruptRequest &&&
        machine.bus.memory.read Address.interruptEnable &&& 0x1F ≠ 0) ∧
    (cpu.haltBug = true → cpu.ime = true →
      history.getLast? = some (cpu.pc - 1, .halt) ∧
      ∃ source, machine.acknowledged = [source] ∧ machine.executedBy .tick = [] ∧
        Cpu.programWrites machine.nextStep =
          [⟨cpu.sp - 1, Word.high (cpu.pc - 1)⟩, ⟨cpu.sp - 2, Word.low (cpu.pc - 1)⟩] ∧
        (machine.respond .tick).cpu.pc = source.vector) := by
  intro cpu
  have hcontrolled := h.controlled
  refine ⟨hcontrolled.sound.delay_eq, fun hone => ?_, fun hboth => ?_, hcontrolled.pending,
    fun hbug hime => ⟨hcontrolled.of_haltBug hbug hime, ?_⟩⟩
  · obtain ⟨hoff, hawake, hplain⟩ := hcontrolled.sound.of_scheduled hone
    exact ⟨hoff, hawake, hplain, hcontrolled.of_scheduled hone⟩
  · have hawake : cpu.halted = false := hcontrolled.sound.not_halted hboth.2
    exact absurd (hboth.1.symm.trans hawake) Bool.noConfusion
  · -- a repeat goes with a pending request, which is served because the switch is on
    obtain ⟨source, hserved⟩ := Cpu.exists_served hime (hcontrolled.pending hbug)
    obtain ⟨hacknowledged, hexecuted, hwrites, hafter⟩ := tick_of_served hserved
    have hreturn : machine.cpu.returnAddress = machine.cpu.pc - 1 := if_pos hbug
    rw [hreturn] at hwrites
    exact ⟨source, hacknowledged, hexecuted, hwrites, by rw [hafter]⟩

/-- A tick that executes EI. -/
theorem tick_of_ei (hoff : machine.cpu.InterruptsOff)
    (hei : machine.bus.memory.read machine.cpu.pc = 0xFB) :
    machine.executedBy .tick = [(machine.cpu.pc, .ei)] ∧
      (machine.respond .tick).cpu = machine.cpu.afterRow 1 ∧
      SameOutside clockCells machine.bus.memory (machine.respond .tick).bus.memory ∧
      (machine.bus.memory.pending ≠ 0 → (machine.respond .tick).bus.memory.pending ≠ 0) := by
  have hat : machine.bus.memory.instructionAt machine.cpu.pc = .ei := by
    rw [Memory.instructionAt, hei]
    rfl
  have hstep : Cpu.stepOn (machine.cpu, machine.bus) = (machine.cpu.afterRow 1, machine.bus) :=
    hoff.stepOn_ei hei
  have hbus : machine.writtenBus = machine.bus := congrArg Prod.snd hstep
  refine ⟨?_, (cpu_tick machine).trans (congrArg Prod.fst hstep), ?_, fun hpending => ?_⟩
  · rw [← hat]
    exact Cpu.executed_step_of_awake hoff.awake hoff.advances (Cpu.served?_of_off hoff.off _)
  · rw [← hbus]
    exact machine.sameOutside_tick
  · apply pending_tick
    rwa [hbus]

/-- An image of the whole address space. -/
def wholeImage (cells : Nat → UInt8) : ByteArray := ⟨.ofFn fun i : Fin 0x10000 => cells i.val⟩

theorem read_start_wholeImage (cells : Nat → UInt8) (address : UInt16) :
    (Machine.start (wholeImage cells)).value.bus.memory.read address = cells address.toNat := by
  have hsize : address.toNat < (wholeImage cells).size := by
    rw [wholeImage, ByteArray.size, Array.size_ofFn]
    exact address.toNat_lt
  rw [memory_start, Memory.read_load_of_lt _ hsize]
  simp only [wholeImage, ByteArray.getElem_eq_getElem_data, Array.getElem_ofFn]

/-- EI and HALT at the entry point, with the first source requested and enabled. -/
def haltCells : Nat → UInt8
  | 0x0100 => 0xFB
  | 0x0101 => 0x76
  | 0xFF0F | 0xFFFF => 0x01
  | _ => 0x00

/-- EI and HALT under a pending interrupt: the halt does not happen, and the interrupt that is
served in its place returns to it. -/
theorem control_of_reachable_halt :
    ∃ machine, Reachable machine [(0x0100, .ei), (0x0101, .halt)] ∧
      machine.cpu.haltBug = true ∧ machine.cpu.ime = true ∧ machine.cpu.pc - 1 = 0x0101 ∧
      ∃ source, machine.acknowledged = [source] := by
  have hinitial := Reachable.initial (Initial.start (wholeImage haltCells))
  have hread := read_start_wholeImage haltCells
  have hcpu : (Machine.start (wholeImage haltCells)).value.cpu = Cpu.powerOn := rfl
  -- the machine is a large closed term; only its registers and its memory are needed
  generalize (Machine.start (wholeImage haltCells)).value = first at hinitial hread hcpu
  have hoff : first.cpu.InterruptsOff := by
    rw [hcpu]
    exact ⟨rfl, rfl, rfl, rfl⟩
  have hei : first.bus.memory.read first.cpu.pc = 0xFB := by
    rw [hread, hcpu]
    decide
  have hpending : first.bus.memory.pending ≠ 0 := by
    rw [Memory.pending, hread, hread]
    decide
  obtain ⟨hfirst, hnext, hsame, hkept⟩ := tick_of_ei hoff hei
  have hpending := hkept hpending
  have hopcode : (first.respond .tick).bus.memory.read 0x0101 = 0x76 := by
    rw [hsame 0x0101 (by decide), hread]
    decide
  have hreaches := hinitial.respond .tick
  rw [hfirst, List.nil_append, hcpu] at hreaches
  rw [hcpu] at hnext
  generalize first.respond .tick = machine at hreaches hnext hpending hopcode
  have hawake : machine.cpu.halted = false := by rw [hnext]; rfl
  have hplain : machine.cpu.haltBug = false := by rw [hnext]; rfl
  have hoff : machine.cpu.ime = false := by rw [hnext]; rfl
  have hserved := Cpu.served?_of_off hoff machine.bus.memory
  have hhalt : machine.bus.memory.instructionAt machine.cpu.pc = .halt := by
    rw [hnext]
    show machine.bus.memory.instructionAt 0x0101 = .halt
    rw [Memory.instructionAt, hopcode]
    rfl
  have hsecond : machine.executedBy .tick = [(0x0101, .halt)] := by
    rw [executedBy, nextStep, Cpu.executed_step_of_awake hawake hplain hserved, hhalt, hnext]
    rfl
  have hcontrol : (machine.respond .tick).cpu.control = ⟨false, true, 0, true⟩ := by
    rw [respond, cpu_tick, nextStep, Cpu.control_step_of_awake hawake hserved,
      Cpu.fst_fetchInstruction hplain, hhalt, bne_iff_ne.mpr hpending, hnext]
    rfl
  rw [Cpu.control] at hcontrol
  obtain ⟨-, hime, -, hbug⟩ := Control.mk.inj hcontrol
  have hboth := hreaches.respond .tick
  rw [hsecond] at hboth
  obtain ⟨-, -, -, -, hserves⟩ := control_of_reachable hboth
  obtain ⟨hlast, source, hsource, -⟩ := hserves hbug hime
  refine ⟨_, hboth, hbug, hime, ?_, source, hsource⟩
  exact (congrArg Prod.fst (Option.some.inj hlast)).symm

end GameBoy.Machine
