import Mathlib.Logic.Function.Iterate
import GameBoy.Proofs.Cpu.Running

/-!
# Interrupts are switched on one instruction late

EI schedules the switch of the interrupts, and the count of the instruction after it makes the
switch.  So that instruction is always executed, whatever is pending, and only the step after it may
serve an interrupt; DI alone takes the switch back.  `served_after_next` says this of every
instruction that may follow, and of rows of EI, whose second one is such an instruction.
-/

namespace GameBoy.Cpu

variable {cpu : Cpu} {bus : Bus}

/-- A processor that executes one instruction after the other, with interrupts off and no switch of
them scheduled. -/
structure InterruptsOff (cpu : Cpu) : Prop where
  awake : cpu.halted = false
  off : cpu.ime = false
  unscheduled : cpu.imeDelay = 0
  advances : cpu.haltBug = false

/-! ## Rows of EI -/

/-- Where a number of EI in a row leaves a processor with interrupts off. -/
def afterRow (cpu : Cpu) (n : Nat) : Cpu :=
  { cpu with
    pc := cpu.pc + UInt16.ofNat n
    imeDelay := if n = 1 then 1 else 0
    ime := decide (2 ≤ n)
    cycles := cpu.cycles + 4 * n }

theorem InterruptsOff.afterRow_zero (h : cpu.InterruptsOff) : cpu.afterRow 0 = cpu := by
  obtain ⟨a, b, c, d, e, h', l, flags, pc, sp, halted, ime, imeDelay, haltBug, cycles⟩ := cpu
  obtain ⟨hawake, hoff, hdelay, hbug⟩ := h
  dsimp only at hoff hdelay
  simp [afterRow, hoff, hdelay]

theorem pc_afterRow_succ (cpu : Cpu) (n : Nat) :
    (cpu.afterRow n).pc + 1 = (cpu.afterRow (n + 1)).pc := by
  show cpu.pc + UInt16.ofNat n + 1 = cpu.pc + UInt16.ofNat (n + 1)
  rw [UInt16.add_assoc, UInt16.ofNat_add]
  rfl

/-- One more EI, as long as no interrupt is served before it. -/
theorem InterruptsOff.stepOn_afterRow (h : cpu.InterruptsOff) {n : Nat}
    (hquiet : n < 2 ∨ bus.memory.pending = 0)
    (hei : bus.memory.read (cpu.afterRow n).pc = 0xFB) :
    stepOn (cpu.afterRow n, bus) = (cpu.afterRow (n + 1), bus) := by
  -- before the third step the switch is off, and from then on nothing is pending
  have hserved : (cpu.afterRow n).served? bus.memory = none := by
    rw [served?_eq_none_iff]
    rintro ⟨hon, hpending⟩
    exact hquiet.elim (Nat.not_lt.mpr (of_decide_eq_true hon)) hpending
  have hawake : (cpu.afterRow n).halted = false := h.awake
  have hbug : (cpu.afterRow n).haltBug = false := h.advances
  have hdecode : Instruction.decode (bus.memory.read (cpu.afterRow n).pc) = .ei := by
    rw [hei]
    rfl
  have hfetch : (cpu.afterRow n).fetchInstruction bus.memory =
      (.ei, { cpu.afterRow n with pc := (cpu.afterRow (n + 1)).pc }) := by
    rw [← pc_afterRow_succ]
    exact fetchInstruction_of_plain hbug hdecode (by decide)
  have hstep := step_of_awake hawake hserved
  rw [runInstruction, hfetch] at hstep
  rw [stepOn, hstep]
  -- the first `EI` starts the count, the second ends it, and the rest find the switch on
  cases n with
  | zero => rfl
  | succ n =>
    cases n with
    | zero => rfl
    | succ n => rfl

/-- A row of EI is executed to its end if nothing is pending, and at least up to its second one
otherwise. -/
theorem InterruptsOff.iterate_stepOn (h : cpu.InterruptsOff) {k : Nat}
    (hrow : ∀ i < k, bus.memory.read (cpu.pc + UInt16.ofNat i) = 0xFB) {n : Nat} (hn : n ≤ k)
    (hquiet : n ≤ 2 ∨ bus.memory.pending = 0) :
    stepOn^[n] (cpu, bus) = (cpu.afterRow n, bus) := by
  induction n with
  | zero => rw [h.afterRow_zero, Function.iterate_zero_apply]
  | succ n ih =>
      have hbefore : n ≤ 2 ∨ bus.memory.pending = 0 := hquiet.imp_left Nat.le_of_succ_le
      -- the last step of the row is taken from where the shorter row leaves the machine
      rw [Function.iterate_succ_apply', ih (Nat.le_of_succ_le hn) hbefore]
      exact h.stepOn_afterRow hquiet (hrow n hn)

theorem InterruptsOff.stepOn_ei (h : cpu.InterruptsOff) (hei : bus.memory.read cpu.pc = 0xFB) :
    stepOn (cpu, bus) = (cpu.afterRow 1, bus) := by
  have hstep : bus.memory.read (cpu.afterRow 0).pc = 0xFB →
      stepOn (cpu.afterRow 0, bus) = (cpu.afterRow 1, bus) :=
    h.stepOn_afterRow (Or.inl (by decide))
  rw [h.afterRow_zero] at hstep
  exact hstep hei

/-! ## The instruction after EI -/

theorem InterruptsOff.control_afterRow_one (h : cpu.InterruptsOff) :
    (cpu.afterRow 1).control = ⟨false, false, 1, false⟩ := by
  rw [control, show (cpu.afterRow 1).halted = false from h.awake,
    show (cpu.afterRow 1).haltBug = false from h.advances]
  rfl

/-- Whatever the instruction after EI is, it is executed, and interrupts are on after it unless it
is DI. -/
theorem InterruptsOff.control_stepOn_afterRow_one (h : cpu.InterruptsOff) :
    let next := bus.memory.instructionAt (cpu.pc + 1)
    (stepOn (cpu.afterRow 1, bus)).1.imeDelay = 0 ∧
      ((stepOn (cpu.afterRow 1, bus)).1.ime = true ↔ next ≠ .di) := by
  intro next
  have hserved : (cpu.afterRow 1).served? bus.memory = none := served?_of_off rfl _
  have hnext : ((cpu.afterRow 1).fetchInstruction bus.memory).1 = next :=
    fst_fetchInstruction h.advances
  have hawake : (cpu.afterRow 1).halted = false := h.awake
  -- the delay and the switch follow from the control state alone, which is known
  have hcontrol := control_step_of_awake hawake hserved
  rw [hnext, h.control_afterRow_one] at hcontrol
  have hdelay : (stepOn (cpu.afterRow 1, bus)).1.imeDelay =
      (Control.run ⟨false, false, 1, false⟩ (bus.memory.pending != 0) next).imeDelay :=
    congrArg Control.imeDelay hcontrol
  have hime : (stepOn (cpu.afterRow 1, bus)).1.ime =
      (Control.run ⟨false, false, 1, false⟩ (bus.memory.pending != 0) next).ime :=
    congrArg Control.ime hcontrol
  rw [hdelay, hime]
  -- `DI` is the one instruction that takes the switch-on back
  by_cases hdi : next = .di
  · rw [hdi, Control.run_di]
    exact ⟨rfl, fun hon => absurd hon Bool.false_ne_true, fun hne => absurd rfl hne⟩
  · rw [Control.run_of_scheduled rfl hdi]
    exact ⟨rfl, fun _ => hdi, fun _ => rfl⟩

/-- A halt right after EI leaves the bus as it is. -/
theorem InterruptsOff.snd_stepOn_of_halt (h : cpu.InterruptsOff)
    (hhalt : bus.memory.instructionAt (cpu.pc + 1) = .halt) :
    (stepOn (cpu.afterRow 1, bus)).2 = bus := by
  have hserved : (cpu.afterRow 1).served? bus.memory = none := served?_of_off rfl _
  have hawake : (cpu.afterRow 1).halted = false := h.awake
  have hnext : ((cpu.afterRow 1).fetchInstruction bus.memory).1 =
      bus.memory.instructionAt (cpu.pc + 1) := fst_fetchInstruction h.advances
  have hwrites : ((cpu.afterRow 1).step bus.memory).writes = [] := by
    rw [step_of_awake hawake hserved]
    exact writes_runInstruction_of_halt (hnext.trans hhalt)
  rw [stepOn, hwrites]
  rfl

/-- A step serves an interrupt exactly if interrupts are on and some source is pending. -/
theorem exists_acknowledged_iff (cpu : Cpu) (memory : Memory) :
    (∃ source, acknowledged (cpu.step memory).entries = [source]) ↔
      cpu.ime = true ∧ memory.pending ≠ 0 := by
  rw [acknowledged_step]
  cases hserved : cpu.served? memory with
  | none => simp [served?_eq_none_iff.mp hserved]
  | some source =>
      obtain ⟨hon, -⟩ := served?_eq_some_iff.mp hserved
      exact iff_of_true ⟨source, rfl⟩ ⟨hon, pending_ne_zero_of_served hserved⟩

/-- **Interrupts are switched on one instruction late.**  With interrupts off, a step executes EI
and leaves them off; the next step executes the instruction after it, whatever is pending, and
interrupts are on after that unless it is DI; and the step after that is the first that may serve
one, which it does exactly if interrupts are on and some source is pending.  In a row of EI
interrupts are on right after the second one; if nothing is pending they stay on while the others
are executed. -/
theorem served_after_next (h : cpu.InterruptsOff) (hei : bus.memory.read cpu.pc = 0xFB) :
    let state (n : Nat) := stepOn^[n] (cpu, bus)
    let step (n : Nat) := (state n).1.step (state n).2.memory
    let next := bus.memory.instructionAt (cpu.pc + 1)
    (executed (step 0).entries = [(cpu.pc, .ei)] ∧ (state 1).1.ime = false ∧
      (state 1).2 = bus) ∧
    (executed (step 1).entries = [(cpu.pc + 1, next)] ∧ acknowledged (step 1).entries = []) ∧
    ((state 2).1.imeDelay = 0 ∧ ((state 2).1.ime = true ↔ next ≠ .di)) ∧
    ((∃ source, acknowledged (step 2).entries = [source]) ↔
      (state 2).1.ime = true ∧ (state 2).2.memory.pending ≠ 0) ∧
    ∀ k, 2 ≤ k → (∀ i < k, bus.memory.read (cpu.pc + UInt16.ofNat i) = 0xFB) →
      (state 1).1.ime = false ∧ (state 2).1.ime = true ∧
        (bus.memory.pending = 0 → ∀ n, 2 ≤ n → n ≤ k →
          state n = ({ cpu with
            pc := cpu.pc + UInt16.ofNat n
            ime := true
            cycles := cpu.cycles + 4 * n }, bus)) := by
  intro state step next
  have hat : bus.memory.instructionAt cpu.pc = .ei := by
    rw [Memory.instructionAt, hei]
    rfl
  have hfirst : state 1 = (cpu.afterRow 1, bus) := h.stepOn_ei hei
  have hsecond : state 2 = stepOn (cpu.afterRow 1, bus) := by
    rw [← hfirst]
    exact Function.iterate_succ_apply' stepOn 1 (cpu, bus)
  have hserved : (cpu.afterRow 1).served? bus.memory = none := served?_of_off rfl _
  have hstep : step 1 = (cpu.afterRow 1).step bus.memory := by
    show (state 1).1.step (state 1).2.memory = _
    rw [hfirst]
  refine ⟨⟨?_, ?_, ?_⟩, ⟨?_, ?_⟩, ?_, exists_acknowledged_iff _ _, fun k hk hall => ?_⟩
  · rw [← hat]
    exact executed_step_of_awake h.awake h.advances (served?_of_off h.off bus.memory)
  · rw [hfirst]
    rfl
  · rw [hfirst]
  · rw [hstep]
    have hawake : (cpu.afterRow 1).halted = false := h.awake
    exact executed_step_of_awake hawake h.advances hserved
  · rw [hstep, acknowledged_step, hserved]
    rfl
  · rw [hsecond]
    exact h.control_stepOn_afterRow_one
  · -- a row of `EI`: two steps into it the switch is on, and further steps only pass the time
    rw [hfirst, show state 2 = (cpu.afterRow 2, bus) from
      h.iterate_stepOn hall hk (Or.inl (Nat.le_refl 2))]
    refine ⟨rfl, rfl, fun hpending n hn hle => ?_⟩
    rw [show state n = (cpu.afterRow n, bus) from h.iterate_stepOn hall hle (Or.inr hpending)]
    have hne : n ≠ 1 := by omega
    rw [afterRow, if_neg hne, decide_eq_true hn, ← h.unscheduled]

/-- A bus on which two sources are pending, with EI and then HALT at the entry point. -/
def haltAfterEi : Bus :=
  { alertedBus 0x1F with
    memory := ((alertedBus 0x1F).memory.store 0x0100 0xFB).store 0x0101 0x76 }

theorem read_haltAfterEi (address : UInt16) :
    haltAfterEi.memory.read address =
      if 0x0101 = address then 0x76 else if 0x0100 = address then 0xFB
      else (alertedBus 0x1F).memory.read address := by
  rw [haltAfterEi, Memory.read_store, Memory.read_store]

theorem read_haltAfterEi_entry : haltAfterEi.memory.read 0x0100 = 0xFB := by
  rw [read_haltAfterEi]
  rfl

theorem instructionAt_haltAfterEi : haltAfterEi.memory.instructionAt 0x0101 = .halt := by
  have hopcode : haltAfterEi.memory.read 0x0101 = 0x76 := by
    rw [read_haltAfterEi]
    rfl
  rw [Memory.instructionAt, hopcode]
  rfl

theorem pending_haltAfterEi : haltAfterEi.memory.pending = 0x14 := by
  have hkept {address : UInt16} (hei : 0x0100 ≠ address) (hhalt : 0x0101 ≠ address) :
      haltAfterEi.memory.read address = (alertedBus 0x1F).memory.read address := by
    rw [read_haltAfterEi, if_neg hhalt, if_neg hei]
  rw [Memory.pending, hkept (by decide) (by decide), hkept (by decide) (by decide)]
  exact pending_alertedBus 0x1F

/-- HALT is executed although two sources are pending, and one of them is served after it. -/
theorem served_after_next_halt :
    (powerOn.InterruptsOff ∧ haltAfterEi.memory.read powerOn.pc = 0xFB) ∧
      let state (n : Nat) := stepOn^[n] (powerOn, haltAfterEi)
      let step (n : Nat) := (state n).1.step (state n).2.memory
      executed (step 1).entries = [(0x0101, .halt)] ∧ acknowledged (step 1).entries = [] ∧
        (state 2).1.ime = true ∧ ∃ source, acknowledged (step 2).entries = [source] := by
  have hoff : powerOn.InterruptsOff := ⟨rfl, rfl, rfl, rfl⟩
  have hei : haltAfterEi.memory.read powerOn.pc = 0xFB := read_haltAfterEi_entry
  have hnext : haltAfterEi.memory.instructionAt (powerOn.pc + 1) = .halt :=
    instructionAt_haltAfterEi
  obtain ⟨-, ⟨hexecuted, hquiet⟩, ⟨-, hon⟩, hserves, -⟩ := served_after_next hoff hei
  rw [hnext] at hexecuted hon
  have hime := hon.mpr (by decide)
  have hfirst : stepOn (powerOn, haltAfterEi) = (powerOn.afterRow 1, haltAfterEi) :=
    hoff.stepOn_ei hei
  -- a halt writes nothing, so what is pending is what was pending at the start
  have hpending : (stepOn^[2] (powerOn, haltAfterEi)).2.memory.pending = 0x14 := by
    rw [Function.iterate_succ_apply', Function.iterate_one, hfirst,
      hoff.snd_stepOn_of_halt hnext]
    exact pending_haltAfterEi
  refine ⟨⟨hoff, hei⟩, hexecuted, hquiet, hime, hserves.mpr ⟨hime, ?_⟩⟩
  rw [hpending]
  decide

end GameBoy.Cpu
