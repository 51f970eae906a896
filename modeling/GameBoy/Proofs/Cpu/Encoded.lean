import GameBoy.Proofs.Cpu.ProgramCounter

/-!
# The instructions that opcodes encode

`Instruction` has room for more than the two tables hold, such as a store into an immediate byte or
an access that moves the stack pointer.  This module collects what the `Encoded` instructions have
in common, for the theorems about single instructions.  Their operands do not clash,
`Encoded.regular`; an operand that is read and perhaps written back moves no register, one that is
loaded moves HL at most, and no word but a popped one reaches the flags, `Encoded.steady`; and a
restart goes to the address that is part of its opcode, `vector_of_decode`.

Whatever the state, a step executes nothing else, and never the escape byte on its own:
`Cpu.encoded_fetchInstruction`.
-/

namespace GameBoy

/-! ## Operands -/

namespace Operand

theorem ne_immediate_of_length {place : Operand} (h : place.length = 0) : place ≠ immediate := by
  rintro rfl
  exact absurd h (by decide)

/-- The word register that an access moves on. -/
def moved? : Operand → Option Pair
  | indirectDecrement p | indirectIncrement p => some p
  | _ => none

/-- An operand whose access moves no register but HL. -/
def MovesOnlyHl (place : Operand) : Prop := ∀ p, place.moved? = some p → p = .hl

theorem MovesOnlyHl.of_eq_none {place : Operand} (h : place.moved? = none) :
    place.MovesOnlyHl := by
  intro p hp
  rw [h] at hp
  exact absurd hp nofun

theorem moved?_ofIndex (index : Nat) : (ofIndex index).moved? = none := by
  unfold ofIndex
  split <;> rfl

theorem movesOnlyHl_ofIndex (index : Nat) : (ofIndex index).MovesOnlyHl :=
  .of_eq_none (moved?_ofIndex index)

end Operand

/-! ## Instructions -/

namespace Instruction

theorem movesOnlyHl_pointerOfIndex (index : Nat) : (pointerOfIndex index).MovesOnlyHl := by
  unfold pointerOfIndex
  intro p hp
  split at hp
  · exact absurd hp nofun
  · exact absurd hp nofun
  · exact (Option.some.inj hp).symm
  · exact (Option.some.inj hp).symm

theorem pairOfIndex_ne_af (index : Nat) : pairOfIndex index ≠ .af := by
  unfold pairOfIndex
  split <;> exact Pair.noConfusion

/-- Instructions whose operands move no register, but for HL in a load, and whose word results leave
the flags alone. -/
def Steady : Instruction → Prop
  | load dest src => dest.MovesOnlyHl ∧ src.MovesOnlyHl
  | loadWord p | incWord p | decWord p => p ≠ .af
  | alu _ place | inc place | dec place | shift _ place | testBit _ place | resetBit _ place
  | setBit _ place => place.moved? = none
  | _ => True

/-- The instructions of the two tables. -/
def Encoded (instruction : Instruction) : Prop :=
  (∃ opcode, decode opcode = instruction) ∨ ∃ opcode, decodeExtended opcode = instruction

theorem encoded_decode (opcode : UInt8) : (decode opcode).Encoded := .inl ⟨opcode, rfl⟩

theorem encoded_decodeExtended (opcode : UInt8) : (decodeExtended opcode).Encoded :=
  .inr ⟨opcode, rfl⟩

theorem Encoded.regular {instruction : Instruction} (h : instruction.Encoded) :
    instruction.Regular := by
  rcases h with ⟨opcode, rfl⟩ | ⟨opcode, rfl⟩
  · exact regular_decode opcode
  · exact regular_decodeExtended opcode

/-! ### Operands in the tables -/

theorem steady_ofBlock0 (row column : Nat) : (ofBlock0 row column).Steady := by
  have haccumulator : accumulator.MovesOnlyHl := .of_eq_none rfl
  have himmediate : Operand.immediate.MovesOnlyHl := .of_eq_none rfl
  have hpointer := movesOnlyHl_pointerOfIndex (row / 2)
  -- one case for each row of the table; the places that a row names are those above
  fun_cases ofBlock0 row column
  all_goals first
    | trivial
    | exact Operand.moved?_ofIndex row
    | exact pairOfIndex_ne_af _
    | exact ⟨hpointer, haccumulator⟩
    | exact ⟨haccumulator, hpointer⟩
    | exact ⟨Operand.movesOnlyHl_ofIndex row, himmediate⟩

theorem steady_ofBlock1 (row column : Nat) : (ofBlock1 row column).Steady := by
  unfold ofBlock1
  split
  · trivial
  · exact ⟨Operand.movesOnlyHl_ofIndex row, Operand.movesOnlyHl_ofIndex column⟩

theorem steady_ofBlock3 (opcode : UInt8) (row column : Nat) :
    (ofBlock3 opcode row column).Steady := by
  -- the loads of this block go through addresses that nothing moves
  fun_cases ofBlock3 opcode row column
  all_goals first
    | trivial
    | exact ⟨.of_eq_none rfl, .of_eq_none rfl⟩

theorem steady_decode (opcode : UInt8) : (decode opcode).Steady := by
  unfold decode
  dsimp only
  split
  · exact steady_ofBlock0 _ _
  · exact steady_ofBlock1 _ _
  · exact Operand.moved?_ofIndex _
  · exact steady_ofBlock3 opcode _ _

theorem steady_decodeExtended (opcode : UInt8) : (decodeExtended opcode).Steady := by
  unfold decodeExtended
  dsimp only
  split <;> exact Operand.moved?_ofIndex _

theorem Encoded.steady {instruction : Instruction} (h : instruction.Encoded) :
    instruction.Steady := by
  rcases h with ⟨opcode, rfl⟩ | ⟨opcode, rfl⟩
  · exact steady_decode opcode
  · exact steady_decodeExtended opcode

/-! ### Restarts -/

theorem ofBlock0_ne_restart (row column : Nat) (vector : UInt8) :
    ofBlock0 row column ≠ restart vector := by
  fun_cases ofBlock0 row column
  all_goals exact Instruction.noConfusion

theorem ofBlock1_ne_restart (row column : Nat) (vector : UInt8) :
    ofBlock1 row column ≠ restart vector := by
  unfold ofBlock1
  split <;> exact Instruction.noConfusion

theorem vector_of_ofBlock3 {opcode vector : UInt8} {row column : Nat}
    (h : ofBlock3 opcode row column = restart vector) : vector = UInt8.ofNat (row * 8) := by
  revert h
  fun_cases ofBlock3 opcode row column
  all_goals first
    | exact fun h => (Instruction.restart.inj h).symm
    | exact Instruction.noConfusion

/-- The row of an opcode is the address of its restart, but for the factor of eight. -/
theorem ofNat_row (opcode : UInt8) :
    UInt8.ofNat (opcode.toNat / 8 % 8 * 8) = opcode &&& 0x38 := by
  -- the middle bits of a byte, by its 256 values
  have hrow : ∀ n < 256, n &&& 56 = n / 8 % 8 * 8 := by decide +kernel
  apply UInt8.toNat_inj.mp
  rw [UInt8.toNat_and, UInt8.toNat_ofNat']
  show opcode.toNat / 8 % 8 * 8 % 256 = opcode.toNat &&& 56
  rw [hrow _ opcode.toNat_lt]
  omega

/-- A restart goes to the address in the middle bits of its opcode. -/
theorem vector_of_decode {opcode vector : UInt8} (h : decode opcode = restart vector) :
    vector = opcode &&& 0x38 := by
  unfold decode at h
  dsimp only at h
  split at h
  · exact absurd h (ofBlock0_ne_restart _ _ vector)
  · exact absurd h (ofBlock1_ne_restart _ _ vector)
  · exact Instruction.noConfusion h
  · exact (vector_of_ofBlock3 h).trans (ofNat_row opcode)

theorem decodeExtended_ne_escape (opcode : UInt8) : decodeExtended opcode ≠ escape := by
  unfold decodeExtended
  dsimp only
  split <;> exact Instruction.noConfusion

end Instruction

/-! ## What is fetched -/

/-- The instruction that is fetched, moving past its opcode or not, comes from the tables, and it is
never the escape byte. -/
theorem Cpu.encoded_fetchInstruction (cpu : Cpu) (memory : Memory) :
    (cpu.fetchInstruction memory).1.Encoded ∧ (cpu.fetchInstruction memory).1 ≠ .escape := by
  unfold fetchInstruction
  dsimp only
  split
  · exact ⟨Instruction.encoded_decodeExtended _, Instruction.decodeExtended_ne_escape _⟩
  · rename_i hplain
    exact ⟨Instruction.encoded_decode _, hplain⟩

end GameBoy
