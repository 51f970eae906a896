import GameBoy.Proofs.Cpu.Running

/-!
# How far an instruction moves the program counter

Operand bytes are fetched while an instruction runs, in the reads and writes of the operands that it
names, and every fetch moves the program counter past its byte.  So what is not a branch ends behind
its operand bytes, `Cpu.pc_execute`.

This takes an encoding whose operands do not clash: a place that is read and then written back would
be fetched both times, and a store into an operand byte would not fetch it at all.  No opcode
encodes such an instruction, `Instruction.regular_decode` and `Instruction.regular_decodeExtended`.
-/

namespace GameBoy

/-! ## Operands -/

namespace Operand

theorem length_ofIndex (index : Nat) : (ofIndex index).length = 0 := by
  unfold ofIndex
  split <;> rfl

theorem ofIndex_ne_immediate (index : Nat) : ofIndex index ≠ immediate := by
  unfold ofIndex
  split <;> exact Operand.noConfusion

end Operand

/-! ## Lengths of encodings -/

namespace Instruction

/-- The operand bytes that an instruction names. -/
def operandLength : Instruction → Nat
  -- the byte after the opcode of STOP is padding
  | stop => 1
  | load dest src => src.length + dest.length
  | alu _ place | inc place | dec place | shift _ place | testBit _ place | resetBit _ place
  | setBit _ place => place.length
  | loadHlSpOffset | addSpOffset | jumpRelative _ => 1
  | loadWord _ | storeSp | jump _ | call _ => 2
  | _ => 0

/-- The bytes of the encoding that an opcode begins. -/
def encodedLength (opcode : UInt8) : Nat :=
  match decode opcode with
  | escape => 2
  | instruction => 1 + instruction.operandLength

/-- Whether an instruction may go on somewhere else: jumps, calls and returns. -/
def isBranch : Instruction → Bool
  | jump _ | jumpHl | jumpRelative _ | call _ | ret _ | reti | restart _ => true
  | _ => false

/-- Instructions whose operands do not clash. -/
def Regular : Instruction → Prop
  | load dest _ => dest ≠ .immediate
  | inc place | dec place | shift _ place | resetBit _ place | setBit _ place => place.length = 0
  | _ => True

theorem pointerOfIndex_ne_immediate (index : Nat) : pointerOfIndex index ≠ .immediate := by
  unfold pointerOfIndex
  split <;> exact Operand.noConfusion

theorem regular_ofBlock0 (row column : Nat) : (ofBlock0 row column).Regular := by
  fun_cases ofBlock0 row column
  all_goals first
    | trivial
    | exact Operand.length_ofIndex row
    | exact Operand.ofIndex_ne_immediate row
    | exact pointerOfIndex_ne_immediate _
    | exact Operand.noConfusion

theorem regular_ofBlock1 (row column : Nat) : (ofBlock1 row column).Regular := by
  unfold ofBlock1
  split
  · trivial
  · exact Operand.ofIndex_ne_immediate row

theorem regular_ofBlock3 (opcode : UInt8) (row column : Nat) :
    (ofBlock3 opcode row column).Regular := by
  fun_cases ofBlock3 opcode row column
  all_goals first
    | trivial
    | exact Operand.noConfusion

theorem regular_decode (opcode : UInt8) : (decode opcode).Regular := by
  unfold decode
  dsimp only
  split
  · exact regular_ofBlock0 _ _
  · exact regular_ofBlock1 _ _
  · trivial
  · exact regular_ofBlock3 opcode _ _

theorem regular_decodeExtended (opcode : UInt8) : (decodeExtended opcode).Regular := by
  unfold decodeExtended
  dsimp only
  split
  · exact Operand.length_ofIndex _
  · trivial
  · exact Operand.length_ofIndex _
  · exact Operand.length_ofIndex _

theorem operandLength_decodeExtended (opcode : UInt8) :
    (decodeExtended opcode).operandLength = 0 := by
  unfold decodeExtended
  dsimp only
  split <;> exact Operand.length_ofIndex _

theorem isBranch_decodeExtended (opcode : UInt8) : (decodeExtended opcode).isBranch = false := by
  unfold decodeExtended
  dsimp only
  split <;> rfl

theorem encodedLength_of_ne {opcode : UInt8} (h : decode opcode ≠ escape) :
    encodedLength opcode = 1 + (decode opcode).operandLength := by
  unfold encodedLength
  split
  · rename_i hescape
    exact absurd hescape h
  · rfl

/-- Encodings of one byte are neither extended nor padded. -/
theorem ne_of_encodedLength_eq_one {opcode : UInt8} (h : encodedLength opcode = 1) :
    decode opcode ≠ escape ∧ decode opcode ≠ stop := by
  constructor
  · intro hescape
    rw [encodedLength, hescape] at h
    exact absurd h (by decide)
  · intro hstop
    rw [encodedLength, hstop] at h
    exact absurd h (by decide)

end Instruction

/-! ## Executing -/

namespace Cpu

variable (cpu : Cpu) (memory : Memory)

theorem pc_setRegister (value : UInt8) (r : Register) : (cpu.setRegister value r).pc = cpu.pc := by
  cases r <;> rfl

theorem pc_setPair (value : UInt16) (p : Pair) : (cpu.setPair value p).pc = cpu.pc := by
  cases p <;> rfl

theorem pc_alu (op : AluOp) (operand : UInt8) : (cpu.alu op operand).pc = cpu.pc := by
  cases op <;> rfl

theorem pc_readOperand (place : Operand) :
    (cpu.readOperand memory place).2.pc = cpu.pc + UInt16.ofNat place.length := by
  cases place with
  | immediate | absolute | high => rfl
  | register r | highRegister r | indirect p => exact (UInt16.add_zero _).symm
  | indirectDecrement p | indirectIncrement p =>
      exact (pc_setPair _ _ p).trans (UInt16.add_zero _).symm

theorem pc_writeOperand {place : Operand} (hplace : place ≠ .immediate) (value : UInt8) :
    (cpu.writeOperand memory value place).cpu.pc = cpu.pc + UInt16.ofNat place.length := by
  cases place with
  | immediate => exact absurd rfl hplace
  | absolute | high => rfl
  | register r => exact (pc_setRegister _ _ r).trans (UInt16.add_zero _).symm
  | highRegister r | indirect p => exact (UInt16.add_zero _).symm
  | indirectDecrement p | indirectIncrement p =>
      exact (pc_setPair _ _ p).trans (UInt16.add_zero _).symm

/-- A place without operand bytes is read and written back where the program counter stands. -/
theorem pc_writeBack {place : Operand} (hplace : place.length = 0) (value : UInt8) :
    ((cpu.readOperand memory place).2.writeOperand memory value place).cpu.pc = cpu.pc := by
  have hne : place ≠ .immediate := by
    rintro rfl
    exact absurd hplace (by decide)
  rw [pc_writeOperand _ _ hne, pc_readOperand, hplace]
  exact (UInt16.add_zero _).trans (UInt16.add_zero _)

theorem pc_load {dest : Operand} (hdest : dest ≠ .immediate) (src : Operand) :
    (cpu.execute memory (.load dest src)).cpu.pc =
      cpu.pc + UInt16.ofNat (src.length + dest.length) := by
  rw [execute, pc_writeOperand _ _ hdest, pc_readOperand, UInt16.ofNat_add, UInt16.add_assoc]

/-- What is not a branch ends behind its operand bytes. -/
theorem pc_execute {instruction : Instruction} (hregular : instruction.Regular)
    (hbranch : instruction.isBranch = false) :
    (cpu.execute memory instruction).cpu.pc =
      cpu.pc + UInt16.ofNat instruction.operandLength := by
  have hzero : cpu.pc + UInt16.ofNat 0 = cpu.pc := UInt16.add_zero _
  cases instruction with
  | load dest src => exact cpu.pc_load memory hregular src
  | inc place | dec place | shift op place | resetBit index place | setBit index place =>
      rw [Instruction.operandLength, show place.length = 0 from hregular, hzero]
      exact cpu.pc_writeBack memory hregular _
  | alu op src => exact (pc_alu _ op _).trans (cpu.pc_readOperand memory src)
  | testBit index place => exact cpu.pc_readOperand memory place
  | halt => exact (cpu.pc_halt memory).trans hzero.symm
  | ei =>
      -- whether or not `EI` starts a count, it has no operand bytes
      refine Eq.trans ?_ hzero.symm
      unfold execute
      dsimp only
      split <;> rfl
  | loadWord p => exact pc_setPair _ _ p
  | pop p | incWord p | decWord p => exact (pc_setPair _ _ p).trans hzero.symm
  | stop | storeSp | loadHlSpOffset | addSpOffset => rfl
  | jump condition | jumpHl | jumpRelative condition | call condition | ret condition | reti
  | restart vector => exact Bool.noConfusion hbranch
  | _ => exact hzero.symm

end Cpu

end GameBoy
