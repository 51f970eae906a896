import GameBoy.Proofs.Cpu.Service

/-!
# The control state of the processor

Four fields of the processor decide what its next step is: whether it is halted, whether interrupts
are on, how long until they are switched on, and whether the next opcode fetch is the repeated one
after a halt that did not happen.  Together they are its `Control`.

The control state is a small machine of its own.  Of an instruction only five matter to it,
`Control.after`, and of memory only whether an interrupt is pending: `control_execute` says so of
one instruction, `control_runInstruction` of a whole fetch and execution.  `Control.Sound` is what
every such execution keeps, `Control.Sound.run`.
-/

namespace GameBoy

/-- The part of the processor's state that is neither a register nor a clock. -/
structure Control where
  halted : Bool
  ime : Bool
  imeDelay : Nat
  haltBug : Bool
  deriving DecidableEq, Repr

namespace Control

/-- The control state after an instruction, given whether an interrupt is pending. -/
def after (control : Control) (pending : Bool) : Instruction → Control
  | .stop => { control with halted := true }
  | .halt =>
    if !control.ime && pending then { control with haltBug := true }
    else { control with halted := true }
  | .di => { control with ime := false, imeDelay := 0 }
  | .ei =>
    if !control.ime && control.imeDelay == 0 then { control with imeDelay := 2 } else control
  | .reti => { control with ime := true }
  | _ => control

/-- The control state after the fetch of an opcode. -/
def fetched (control : Control) : Control := { control with haltBug := false }

/-- The control state after the count of an instruction. -/
def countDown (control : Control) : Control :=
  match control.imeDelay with
  | 0 => control
  | 1 => { control with imeDelay := 0, ime := true }
  | delay + 2 => { control with imeDelay := delay + 1 }

/-- The control state after the fetch, the execution and the count of an instruction. -/
def run (control : Control) (pending : Bool) (instruction : Instruction) : Control :=
  (control.fetched.after pending instruction).countDown

end Control

/-! ## The control state of a processor -/

namespace Cpu

variable (cpu : Cpu) (memory : Memory)

def control : Control := ⟨cpu.halted, cpu.ime, cpu.imeDelay, cpu.haltBug⟩

@[simp] theorem control_setRegister (value : UInt8) (r : Register) :
    (cpu.setRegister value r).control = cpu.control := by
  cases r <;> rfl

@[simp] theorem control_setPair (value : UInt16) (p : Pair) :
    (cpu.setPair value p).control = cpu.control := by
  cases p <;> rfl

@[simp] theorem control_readOperand (place : Operand) :
    (cpu.readOperand memory place).2.control = cpu.control := by
  cases place with
  | indirectDecrement p | indirectIncrement p => exact cpu.control_setPair _ p
  | _ => rfl

@[simp] theorem control_writeOperand (value : UInt8) (place : Operand) :
    (cpu.writeOperand memory value place).cpu.control = cpu.control := by
  cases place with
  | register r => exact cpu.control_setRegister value r
  | indirectDecrement p | indirectIncrement p => exact cpu.control_setPair _ p
  | _ => rfl

@[simp] theorem control_modify (place : Operand) (operation : UInt8 → Flags → Alu.Result) :
    (cpu.modify memory place operation).cpu.control = cpu.control :=
  (control_writeOperand _ _ _ _).trans (control_readOperand _ _ _)

@[simp] theorem control_modifyQuietly (place : Operand) (operation : UInt8 → UInt8) :
    (cpu.modifyQuietly memory place operation).cpu.control = cpu.control :=
  (control_writeOperand _ _ _ _).trans (control_readOperand _ _ _)

@[simp] theorem control_alu (op : AluOp) (operand : UInt8) :
    (cpu.alu op operand).control = cpu.control := by
  cases op <;> rfl

theorem control_halt :
    (cpu.halt memory).cpu.control = cpu.control.after (memory.pending != 0) .halt := by
  simp only [halt, Control.after, control]
  split <;> rename_i hskips <;> simp [hskips]

/-! ## Executing -/

/-- Of an instruction the control state depends on its kind, and of memory on whether an interrupt
is pending. -/
theorem control_execute (instruction : Instruction) :
    (cpu.execute memory instruction).cpu.control =
      cpu.control.after (memory.pending != 0) instruction := by
  -- a halt and `EI` look at the control state; operands and registers are no part of it
  cases instruction with
  | halt => exact cpu.control_halt memory
  | ei =>
      simp only [execute, Control.after, control]
      split <;> rename_i hschedules <;> simp [hschedules]
  | load dest src => exact (control_writeOperand _ _ _ _).trans (control_readOperand _ _ _)
  | inc place | dec place | shift op place => exact cpu.control_modify memory place _
  | resetBit index place | setBit index place => exact cpu.control_modifyQuietly memory place _
  | testBit index place => exact cpu.control_readOperand memory place
  | alu op src => exact (control_alu _ _ _).trans (control_readOperand _ _ _)
  | loadWord p | pop p | incWord p | decWord p => exact control_setPair _ _ p
  | jump condition | jumpRelative condition | call condition | ret condition =>
      -- a branch not taken leaves the same control state as one taken
      simp only [execute]
      split <;> rfl
  | _ => rfl

theorem control_fetchInstruction :
    (cpu.fetchInstruction memory).2.control = cpu.control.fetched := by
  unfold fetchInstruction
  -- a repeated byte is fetched from where the counter is, and that is the end of the repeat
  cases hbug : cpu.haltBug with
  | false =>
      dsimp only
      split <;> simp [fetchByte, control, Control.fetched, hbug]
  | true =>
      dsimp only
      split <;> rfl

theorem control_countDown : cpu.countDown.control = cpu.control.countDown := by
  unfold countDown Control.countDown
  cases hdelay : cpu.imeDelay with
  | zero => simp [control, hdelay]
  | succ delay => cases delay <;> simp [control, hdelay]

/-- Fetching, executing and counting an instruction makes of the control state what
`Control.run` says. -/
theorem control_runInstruction :
    (cpu.runInstruction memory).cpu.control =
      cpu.control.run (memory.pending != 0) (cpu.fetchInstruction memory).1 := by
  -- the count goes down after the instruction, so of the two that `EI` sets one is left
  have hexecute := control_execute (cpu.fetchInstruction memory).2 memory
    (cpu.fetchInstruction memory).1
  rw [control_fetchInstruction] at hexecute
  rw [Control.run, ← hexecute]
  exact control_countDown _

end Cpu

/-! ## The five instructions that matter -/

namespace Control

variable {control : Control} {pending : Bool} {instruction : Instruction}

theorem imeDelay_after (hdi : instruction ≠ .di) (hei : instruction ≠ .ei) :
    (control.after pending instruction).imeDelay = control.imeDelay := by
  cases instruction with
  | di => exact absurd rfl hdi
  | ei => exact absurd rfl hei
  | halt =>
      unfold after
      dsimp only
      split <;> rfl
  | _ => rfl

theorem imeDelay_after_of_unscheduled (hdelay : control.imeDelay = 0)
    (hei : instruction ≠ .ei) : (control.after pending instruction).imeDelay = 0 := by
  by_cases hdi : instruction = .di
  · rw [hdi]
    rfl
  · exact (imeDelay_after hdi hei).trans hdelay

/-- With nothing scheduled only EI leaves something to count. -/
theorem run_of_unscheduled (hdelay : control.imeDelay = 0) (hei : instruction ≠ .ei) :
    control.run pending instruction =
      control.fetched.after pending instruction := by
  have hafter : (control.fetched.after pending instruction).imeDelay = 0 :=
    imeDelay_after_of_unscheduled hdelay hei
  rw [run, countDown, hafter]

theorem imeDelay_run_of_unscheduled (hdelay : control.imeDelay = 0) (hei : instruction ≠ .ei) :
    (control.run pending instruction).imeDelay = 0 := by
  rw [run_of_unscheduled hdelay hei]
  exact imeDelay_after_of_unscheduled hdelay hei

theorem run_ei (hdelay : control.imeDelay = 0) :
    control.run pending .ei =
      { control with haltBug := false, imeDelay := if control.ime then 0 else 1 } := by
  obtain ⟨halted, ime, imeDelay, haltBug⟩ := control
  obtain rfl : imeDelay = 0 := hdelay
  cases ime <;> rfl

/-- A scheduled switch of the interrupts takes place unless DI takes it back. -/
theorem run_of_scheduled (hdelay : control.imeDelay = 1) (hdi : instruction ≠ .di) :
    control.run pending instruction =
      { control.fetched.after pending instruction with imeDelay := 0, ime := true } := by
  -- another `EI` does not count anew, and nothing else but `DI` touches the count
  have hafter : (control.fetched.after pending instruction).imeDelay = 1 := by
    by_cases hei : instruction = .ei
    · simp [hei, after, fetched, hdelay]
    · exact (imeDelay_after hdi hei).trans hdelay
  rw [run, countDown, hafter]

theorem run_di :
    control.run pending .di = { control with ime := false, imeDelay := 0, haltBug := false } :=
  rfl

/-- Only a halt under a pending interrupt leaves the next fetch to be repeated. -/
theorem of_haltBug_after (hbug : control.haltBug = false)
    (h : (control.after pending instruction).haltBug = true) :
    instruction = .halt ∧ pending = true ∧ control.ime = false ∧
      control.after pending instruction = { control with haltBug := true } := by
  cases instruction with
  | halt =>
      rw [after] at h ⊢
      split at h
      · rename_i hskips
        rw [if_pos hskips]
        rw [Bool.and_eq_true, Bool.not_eq_true'] at hskips
        exact ⟨rfl, hskips.2, hskips.1, rfl⟩
      · exact absurd (hbug.symm.trans h) Bool.false_ne_true
  | ei =>
      simp only [after] at h
      split at h <;> exact absurd (hbug.symm.trans h) Bool.false_ne_true
  | _ => exact absurd (hbug.symm.trans h) Bool.false_ne_true

theorem halted_countDown (control : Control) : control.countDown.halted = control.halted := by
  unfold countDown
  split <;> rfl

/-- With interrupts off and one pending only STOP halts an awake processor. -/
theorem halted_run_iff (hawake : control.halted = false) (hoff : control.ime = false) :
    (control.run true instruction).halted = true ↔ instruction = .stop := by
  rw [run, halted_countDown]
  -- the fields have to be values for the instruction to decide what follows
  obtain ⟨halted, ime, imeDelay, haltBug⟩ := control
  obtain rfl : halted = false := hawake
  obtain rfl : ime = false := hoff
  cases instruction with
  | stop => exact iff_of_true rfl rfl
  | ei =>
      cases imeDelay <;> exact iff_of_false Bool.false_ne_true Instruction.noConfusion
  | _ => exact iff_of_false Bool.false_ne_true Instruction.noConfusion

/-! ## What is kept -/

/-- A switch of the interrupts is scheduled for the next instruction at most, and only while the
processor is awake with interrupts off; and a processor that goes on after a halt that did not
happen is not halted. -/
structure Sound (control : Control) : Prop where
  delay_le : control.imeDelay ≤ 1
  of_scheduled : control.imeDelay = 1 →
    control.ime = false ∧ control.halted = false ∧ control.haltBug = false
  not_halted : control.haltBug = true → control.halted = false

theorem Sound.delay_eq (h : control.Sound) : control.imeDelay = 0 ∨ control.imeDelay = 1 := by
  have hle := h.delay_le
  omega

theorem Sound.of_clear (hdelay : control.imeDelay = 0) (hbug : control.haltBug = false) :
    control.Sound where
  delay_le := hdelay ▸ Nat.zero_le 1
  of_scheduled hone := absurd (hdelay.symm.trans hone) Nat.zero_ne_one
  not_halted hset := absurd (hbug.symm.trans hset) Bool.false_ne_true

/-- Waking up keeps the control state sound. -/
theorem Sound.wake (h : control.Sound) : ({ control with halted := false } : Control).Sound :=
  ⟨h.delay_le, fun hone => ⟨(h.of_scheduled hone).1, rfl, (h.of_scheduled hone).2.2⟩, fun _ => rfl⟩

/-- Only EI schedules a switch of the interrupts. -/
theorem Sound.of_scheduled_run (h : control.Sound)
    (hone : (control.run pending instruction).imeDelay = 1) :
    instruction = .ei ∧
      control.run pending instruction = { control with haltBug := false, imeDelay := 1 } ∧
        control.ime = false := by
  -- a new count comes from `EI` alone; a count that was there before has run out
  rcases h.delay_eq with hdelay | hdelay
  · by_cases hei : instruction = .ei
    · rw [hei, run_ei hdelay] at hone ⊢
      cases hime : control.ime with
      | false => exact ⟨rfl, rfl, rfl⟩
      | true => exact absurd hone (by simp [hime])
    · rw [imeDelay_run_of_unscheduled hdelay hei] at hone
      exact absurd hone Nat.zero_ne_one
  · by_cases hdi : instruction = .di
    · rw [hdi] at hone
      exact absurd hone Nat.zero_ne_one
    · rw [run_of_scheduled hdelay hdi] at hone
      exact absurd hone Nat.zero_ne_one

/-- A fetch is to be repeated only after a halt under a pending interrupt; and if interrupts are on
by then, the opcode of the halt was not itself fetched twice. -/
theorem Sound.of_haltBug_run (h : control.Sound)
    (hbug : (control.run pending instruction).haltBug = true) :
    instruction = .halt ∧ pending = true ∧
      (control.run pending instruction).halted = control.halted ∧
      ((control.run pending instruction).ime = true → control.haltBug = false) := by
  have hcleared : control.fetched.haltBug = false := rfl
  -- the fetch ends an earlier repeat, so the one found now is of this instruction
  rcases h.delay_eq with hdelay | hdelay
  · by_cases hei : instruction = .ei
    · rw [hei, run_ei hdelay] at hbug
      exact absurd hbug Bool.false_ne_true
    · -- without a switch-on due the switch was off and stays off
      rw [run_of_unscheduled hdelay hei] at hbug ⊢
      obtain ⟨hhalt, hpending, hoff, hafter⟩ := of_haltBug_after hcleared hbug
      rw [hafter]
      exact ⟨hhalt, hpending, rfl, fun hon => absurd (hoff.symm.trans hon) Bool.false_ne_true⟩
  · by_cases hdi : instruction = .di
    · rw [hdi] at hbug
      exact absurd hbug Bool.false_ne_true
    · -- with a switch-on due the switch comes on, but then no repeat was waiting
      rw [run_of_scheduled hdelay hdi] at hbug ⊢
      obtain ⟨hhalt, hpending, -, hafter⟩ := of_haltBug_after hcleared hbug
      rw [hafter]
      exact ⟨hhalt, hpending, rfl, fun _ => (h.of_scheduled hdelay).2.2⟩

/-- Every execution by an awake processor keeps the control state sound. -/
theorem Sound.run (h : control.Sound) (hawake : control.halted = false) :
    (control.run pending instruction).Sound := by
  refine ⟨?_, fun hone => ?_, fun hbug => (h.of_haltBug_run hbug).2.2.1.trans hawake⟩
  · -- an `EI` leaves one to count, and what was to be counted before is used up
    rcases h.delay_eq with hdelay | hdelay
    · by_cases hei : instruction = .ei
      · rw [hei, run_ei hdelay]
        dsimp only
        split <;> decide
      · rw [imeDelay_run_of_unscheduled hdelay hei]
        exact Nat.zero_le 1
    · by_cases hdi : instruction = .di
      · rw [hdi]
        exact Nat.zero_le 1
      · rw [run_of_scheduled hdelay hdi]
        exact Nat.zero_le 1
  · -- a count of one was started by `EI` just now: off, awake and without a repeat
    obtain ⟨-, hrun, hoff⟩ := h.of_scheduled_run hone
    rw [hrun]
    exact ⟨hoff, hawake, rfl⟩

end Control

end GameBoy
