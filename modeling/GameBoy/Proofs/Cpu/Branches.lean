import GameBoy.Proofs.Cpu.ProgramCounter

/-!
# Conditional branches

Four kinds of branch come with a condition or without.  Each looks at its condition in an arm of its
own, after it has fetched its operand bytes, so it takes a proof that they agree on what a condition
does: `execute_conditional` makes a conditional branch of the unconditional one and a test, and
`cycles_conditional` does the same for the time it takes.  Only a return, which has no operand
bytes, pays for the test, and it pays whether it is taken or not.

The main statement, `conditional_branch`, says what this means for either outcome of the test.
-/

namespace GameBoy

/-! ## Conditions -/

/-- The condition that expects the contrary of the same flag. -/
def Condition.opposite : Condition → Condition
  | .notZero => .zero
  | .zero => .notZero
  | .notCarry => .carry
  | .carry => .notCarry

theorem Flags.holds_opposite (flags : Flags) (condition : Condition) :
    flags.holds (some condition.opposite) = !flags.holds (some condition) := by
  cases condition with
  | notZero | notCarry => exact (Bool.not_not _).symm
  | zero | carry => rfl

/-! ## Kinds of branch -/

/-- A branch that may have a condition. -/
inductive BranchKind
  | jump | jumpRelative | call | ret
  deriving DecidableEq, Repr

namespace BranchKind

def instruction : BranchKind → Option Condition → Instruction
  | jump => .jump
  | jumpRelative => .jumpRelative
  | call => .call
  | ret => .ret

/-- The operand bytes, of which a condition takes none. -/
def operandLength : BranchKind → Nat
  | jump | call => 2
  | jumpRelative => 1
  | ret => 0

/-- The clock cycles that a condition adds. -/
def testCycles : BranchKind → Nat
  | ret => 4
  | _ => 0

variable (kind : BranchKind) (condition : Condition) (flags : Flags)

theorem operandLength_instruction (test : Option Condition) :
    (kind.instruction test).operandLength = kind.operandLength := by
  cases kind <;> rfl

/-- A conditional branch takes its test and then as long as the unconditional one, or one machine
cycle for each byte of its encoding. -/
theorem cycles_conditional :
    (kind.instruction (some condition)).cycles flags =
      kind.testCycles +
        if flags.holds (some condition) then (kind.instruction none).cycles flags
        else 4 * (1 + kind.operandLength) := by
  have hnone : flags.holds none = true := rfl
  cases htaken : flags.holds (some condition) <;> cases kind <;>
    simp [instruction, testCycles, operandLength, Instruction.cycles, hnone, htaken]

/-- A branch that is taken takes longer than its fetches. -/
theorem fetches_lt_cycles :
    4 * (1 + kind.operandLength) < (kind.instruction none).cycles flags := by
  cases kind with
  | jump => exact (by decide : 12 < 16)
  | jumpRelative => exact (by decide : 8 < 12)
  | call => exact (by decide : 12 < 24)
  | ret => exact (by decide : 4 < 16)

theorem cycles_skipped_lt_taken {skipped taken : Flags}
    (hskipped : skipped.holds (some condition) = false)
    (htaken : taken.holds (some condition) = true) :
    (kind.instruction (some condition)).cycles skipped <
      (kind.instruction (some condition)).cycles taken := by
  have hfetches := kind.fetches_lt_cycles taken
  rw [cycles_conditional, cycles_conditional, hskipped, htaken]
  exact Nat.add_lt_add_left hfetches _

end BranchKind

/-! ## Executing -/

namespace Cpu

/-- A conditional branch is the unconditional one if its condition holds, and otherwise fetches its
operand bytes. -/
theorem execute_conditional (cpu : Cpu) (memory : Memory) (kind : BranchKind)
    (condition : Condition) :
    cpu.execute memory (kind.instruction (some condition)) =
      if cpu.flags.holds (some condition) then cpu.execute memory (kind.instruction none)
      else { cpu := { cpu with pc := cpu.pc + UInt16.ofNat kind.operandLength } } := by
  have hnone : cpu.flags.holds none = true := rfl
  -- nothing but the test of the flags tells it from the form without a condition
  cases htaken : cpu.flags.holds (some condition) with
  | true =>
      cases kind <;> simp [BranchKind.instruction, execute, fetchByte, fetchWord, htaken, hnone]
  | false =>
      cases kind <;>
        simp [BranchKind.instruction, BranchKind.operandLength, execute, fetchByte, fetchWord,
          htaken]

/-- **Conditional branches.**  A jump, a relative jump, a call or a return whose condition does not
hold moves the program counter past its operand bytes and does nothing else, in less time than if it
were taken.  If the condition holds, it does what it does without a condition, in the same time, to
which a return adds one machine cycle.  Of two opposite conditions exactly one holds. -/
theorem conditional_branch (cpu : Cpu) (memory : Memory) (kind : BranchKind)
    (condition : Condition) :
    let conditional := kind.instruction (some condition)
    let unconditional := kind.instruction none
    (cpu.flags.holds (some condition) = false →
      cpu.execute memory conditional =
          { cpu := { cpu with pc := cpu.pc + UInt16.ofNat conditional.operandLength } } ∧
        ∀ flags : Flags, flags.holds (some condition) = true →
          conditional.cycles cpu.flags < conditional.cycles flags) ∧
    (cpu.flags.holds (some condition) = true →
      cpu.execute memory conditional = cpu.execute memory unconditional ∧
        conditional.cycles cpu.flags =
          unconditional.cycles cpu.flags + if kind = .ret then 4 else 0) ∧
    cpu.flags.holds (some condition.opposite) = !cpu.flags.holds (some condition) := by
  intro conditional unconditional
  refine ⟨?_, ?_, cpu.flags.holds_opposite condition⟩
  · intro hskipped
    constructor
    · rw [cpu.execute_conditional, hskipped, kind.operandLength_instruction]
      rfl
    · intro flags htaken
      exact kind.cycles_skipped_lt_taken condition hskipped htaken
  · intro htaken
    -- only a return spends time on the test itself
    have htest : kind.testCycles = if kind = .ret then 4 else 0 := by cases kind <;> rfl
    constructor
    · rw [cpu.execute_conditional, if_pos htaken]
    · rw [kind.cycles_conditional, if_pos htaken, htest, Nat.add_comm]

/-- The zero flag is set at power-on. -/
theorem conditional_branch_powerOn :
    (powerOn.flags.holds (some .notZero) = false ∧
      powerOn.execute .blank (.call (some .notZero)) = { cpu := { powerOn with pc := 0x0102 } }) ∧
    powerOn.flags.holds (some .zero) = true ∧
      powerOn.execute .blank (.ret (some .zero)) = powerOn.execute .blank (.ret none) ∧
      (Instruction.ret (some .zero)).cycles powerOn.flags = 20 := by
  have hskipped : powerOn.flags.holds (some .notZero) = false := rfl
  have htaken : powerOn.flags.holds (some .zero) = true := rfl
  have hcall := ((conditional_branch powerOn .blank .call .notZero).1 hskipped).1
  have hret := (conditional_branch powerOn .blank .ret .zero).2.1 htaken
  exact ⟨⟨hskipped, hcall⟩, htaken, hret⟩

end Cpu

end GameBoy
