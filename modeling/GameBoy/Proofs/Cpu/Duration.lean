import GameBoy.Cpu.Step
import GameBoy.Proofs.Width

/-!
# How long a step takes

Time passes in machine cycles of four clock cycles.  Every instruction takes a whole number of them,
`Instruction.four_dvd_cycles`, and no encoded one more than six, `Instruction.cycles_decode_le` and
`Instruction.cycles_decodeExtended_le`; idling takes one and serving an interrupt takes five.  So a
step takes one to six machine cycles, whatever the state: `Cpu.duration_step`.

The clock that adds them up is a word of 64 bits.  `Cpu.step?` is a step in these terms, and fails
where the clock would leave its range.
-/

namespace GameBoy

/-! ## Operands -/

namespace Operand

theorem four_dvd_cycles (place : Operand) : 4 ∣ place.cycles := by
  cases place with
  | register r => exact Nat.dvd_zero 4
  | absolute => exact (by decide : 4 ∣ 12)
  | high => exact (by decide : 4 ∣ 8)
  | _ => exact Nat.dvd_refl 4

/-- An operand of the regular blocks is a register or the cell at HL. -/
theorem cycles_ofIndex_le (index : Nat) : (ofIndex index).cycles ≤ 4 := by
  unfold ofIndex
  split <;> decide

end Operand

namespace Instruction

theorem cycles_pointerOfIndex_le (index : Nat) : (pointerOfIndex index).cycles ≤ 4 := by
  unfold pointerOfIndex
  split <;> decide

/-! ## Instructions -/

theorem four_dvd_cycles (flags : Flags) (instruction : Instruction) :
    4 ∣ instruction.cycles flags := by
  cases instruction with
  | load dest src =>
      have hdest := dest.four_dvd_cycles
      have hsrc := src.four_dvd_cycles
      simp only [cycles]
      omega
  | alu op place | inc place | dec place | shift op place | testBit index place
  | resetBit index place | setBit index place =>
      have hplace := place.four_dvd_cycles
      simp only [cycles]
      omega
  | ret condition =>
      cases condition with
      | none => exact (by decide : 4 ∣ 16)
      | some condition => simp only [cycles]; split <;> decide
  | jump | jumpRelative | call => simp only [cycles]; split <;> decide
  | _ => simp only [cycles]; decide

theorem four_le_cycles (flags : Flags) (instruction : Instruction) :
    4 ≤ instruction.cycles flags :=
  Nat.le_of_dvd (instruction.cycles_pos flags) (instruction.four_dvd_cycles flags)

/-! ### Encoded instructions -/

section

variable (flags : Flags)

/-- A branch, taken or not. -/
theorem cycles_branch_le (condition : Option Condition) :
    (jump condition).cycles flags ≤ 24 ∧ (jumpRelative condition).cycles flags ≤ 24 ∧
      (call condition).cycles flags ≤ 24 ∧ (ret condition).cycles flags ≤ 24 := by
  refine ⟨?_, ?_, ?_, ?_⟩
  · simp only [cycles]; split <;> decide
  · simp only [cycles]; split <;> decide
  · simp only [cycles]; split <;> decide
  · cases condition with
    | none => exact (by decide : 16 ≤ 24)
    | some condition => simp only [cycles]; split <;> decide

theorem cycles_ofBlock0_le (row column : Nat) : (ofBlock0 row column).cycles flags ≤ 24 := by
  have hregular := Operand.cycles_ofIndex_le row
  have hpointer := cycles_pointerOfIndex_le (row / 2)
  have haccumulator : accumulator.cycles = 0 := rfl
  have himmediate : Operand.immediate.cycles = 4 := rfl
  have hjump (condition : Option Condition) := (cycles_branch_le flags condition).2.1
  fun_cases ofBlock0 row column
  all_goals first | exact hjump _ | simp only [cycles]; omega

theorem cycles_ofBlock1_le (row column : Nat) : (ofBlock1 row column).cycles flags ≤ 24 := by
  have hdest := Operand.cycles_ofIndex_le row
  have hsrc := Operand.cycles_ofIndex_le column
  unfold ofBlock1
  split
  · exact (by decide : 4 ≤ 24)
  · simp only [cycles]
    omega

theorem cycles_ofBlock3_le (opcode : UInt8) (row column : Nat) :
    (ofBlock3 opcode row column).cycles flags ≤ 24 := by
  have haccumulator : accumulator.cycles = 0 := rfl
  have himmediate : Operand.immediate.cycles = 4 := rfl
  have hhigh : Operand.high.cycles = 8 := rfl
  have hregister : (Operand.highRegister .c).cycles = 4 := rfl
  have habsolute : Operand.absolute.cycles = 12 := rfl
  have hjump (condition : Option Condition) := (cycles_branch_le flags condition).1
  have hcall (condition : Option Condition) := (cycles_branch_le flags condition).2.2.1
  have hret (condition : Option Condition) := (cycles_branch_le flags condition).2.2.2
  -- one case for each row of the table; the times that a row adds up are those above
  fun_cases ofBlock3 opcode row column
  all_goals first
    | exact hjump _
    | exact hcall _
    | exact hret _
    | simp only [cycles]; omega

/-- No opcode takes longer than a call. -/
theorem cycles_decode_le (opcode : UInt8) : (decode opcode).cycles flags ≤ 24 := by
  unfold decode
  dsimp only
  split
  · exact cycles_ofBlock0_le flags _ _
  · exact cycles_ofBlock1_le flags _ _
  · have hplace := Operand.cycles_ofIndex_le (opcode.toNat % 8)
    simp only [cycles]
    omega
  · exact cycles_ofBlock3_le flags opcode _ _

theorem cycles_decodeExtended_le (opcode : UInt8) :
    (decodeExtended opcode).cycles flags ≤ 24 := by
  have hplace := Operand.cycles_ofIndex_le opcode.toNat
  unfold decodeExtended
  dsimp only
  split
  all_goals simp only [cycles]; omega

end

end Instruction

/-! ## Steps -/

/-- The number of clock cycles of one to six machine cycles. -/
structure IsDuration (cycles : Nat) : Prop where
  four_dvd : 4 ∣ cycles
  four_le : 4 ≤ cycles
  le : cycles ≤ 24

namespace Cpu

theorem isDuration_idle : IsDuration 4 := ⟨by decide, by decide, by decide⟩

theorem isDuration_service : IsDuration serviceCycles := ⟨by decide, by decide, by decide⟩

theorem duration_runInstruction (cpu : Cpu) (memory : Memory) :
    IsDuration (cpu.runInstruction memory).duration := by
  have hduration : (cpu.runInstruction memory).duration =
      (cpu.fetchInstruction memory).1.cycles (cpu.fetchInstruction memory).2.flags := rfl
  rw [hduration]
  refine ⟨Instruction.four_dvd_cycles _ _, Instruction.four_le_cycles _ _, ?_⟩
  -- the flags only choose between two times, and the bound holds for either
  generalize (cpu.fetchInstruction memory).2.flags = flags
  unfold fetchInstruction
  dsimp only
  split
  · exact Instruction.cycles_decodeExtended_le flags _
  · exact Instruction.cycles_decode_le flags _

theorem duration_stepAwake (cpu : Cpu) (memory : Memory) :
    IsDuration (cpu.stepAwake memory).duration := by
  unfold stepAwake
  split
  · exact isDuration_service
  · exact duration_runInstruction cpu memory

/-- A step takes one to six machine cycles. -/
theorem duration_step (cpu : Cpu) (memory : Memory) : IsDuration (cpu.step memory).duration := by
  unfold step stepUncounted
  split
  · split
    · exact isDuration_idle
    · exact duration_stepAwake _ memory
  · exact duration_stepAwake cpu memory

/-! ## The clock -/

/-- A step whose clock is a word of 64 bits. -/
def step? (cpu : Cpu) (memory : Memory) : Option Step := do
  let step := cpu.stepUncounted memory
  let cycles ← Width.sum? 64 cpu.cycles step.duration
  some { step with cpu := { step.cpu with cycles } }

theorem step?_eq_bind (cpu : Cpu) (memory : Memory) :
    cpu.step? memory =
      (Width.sum? 64 cpu.cycles (cpu.step memory).duration).bind fun cycles =>
        some { cpu.step memory with cpu := { (cpu.step memory).cpu with cycles } } := rfl

theorem step?_eq_some {cpu : Cpu} {memory : Memory}
    (h : cpu.cycles + (cpu.step memory).duration < 2 ^ 64) :
    cpu.step? memory = some (cpu.step memory) := by
  rw [step?_eq_bind, Width.sum?_eq_some h]
  rfl

theorem step?_eq_none {cpu : Cpu} {memory : Memory}
    (h : 2 ^ 64 ≤ cpu.cycles + (cpu.step memory).duration) : cpu.step? memory = none := by
  rw [step?_eq_bind, Width.sum?_eq_none h]
  rfl

/-- A clock that wraps around is right up to whole turns. -/
theorem cycles_step_wrapping (cpu : Cpu) (memory : Memory) :
    UInt64.ofNat (cpu.step memory).cpu.cycles =
      UInt64.ofNat cpu.cycles + UInt64.ofNat (cpu.step memory).duration := by
  rw [cycles_step, UInt64.ofNat_add]

end Cpu

end GameBoy
