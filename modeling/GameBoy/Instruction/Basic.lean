import GameBoy.Instruction.Operand
import GameBoy.Text.Hex
import GameBoy.Cpu.Flags

/-!
# Instructions

`Instruction` lists what the processor can do once an encoding is decoded, `Instruction.text` is
the assembly text of an instruction with its operand bytes left symbolic, and
`Instruction.cycles` is its duration, which depends on the flags for a conditional branch.
-/

namespace GameBoy

/-! ## Accumulator operations and shifts -/

/-- An operation of the accumulator with one operand. -/
inductive AluOp
  | add | adc | sub | sbc | and | xor | or | cp
  deriving DecidableEq, Repr

namespace AluOp

/-- The operation in row `index` (modulo eight) of the accumulator block. -/
def ofIndex (index : Nat) : AluOp :=
  match index % 8 with
  | 0 => add
  | 1 => adc
  | 2 => sub
  | 3 => sbc
  | 4 => and
  | 5 => xor
  | 6 => or
  | _ => cp

def name : AluOp → String
  | add => "ADD"
  | adc => "ADC"
  | sub => "SUB"
  | sbc => "SBC"
  | and => "AND"
  | xor => "XOR"
  | or => "OR"
  | cp => "CP"

end AluOp

/-- A rotation or shift of one operand. -/
inductive ShiftOp
  | rlc | rrc | rl | rr | sla | sra | swap | srl
  deriving DecidableEq, Repr

namespace ShiftOp

/-- The shift in row `index` (modulo eight) of the extended block. -/
def ofIndex (index : Nat) : ShiftOp :=
  match index % 8 with
  | 0 => rlc
  | 1 => rrc
  | 2 => rl
  | 3 => rr
  | 4 => sla
  | 5 => sra
  | 6 => swap
  | _ => srl

def name : ShiftOp → String
  | rlc => "RLC"
  | rrc => "RRC"
  | rl => "RL"
  | rr => "RR"
  | sla => "SLA"
  | sra => "SRA"
  | swap => "SWAP"
  | srl => "SRL"

end ShiftOp

/-! ## Instructions -/

/-- A decoded instruction.  A branch without a condition is always taken. -/
inductive Instruction
  | nop
  | stop
  | halt
  | di
  | ei
  /-- The opcode 0xCB, whose second byte selects from the extended table. -/
  | escape
  /-- An opcode without a meaning, executed as `nop`. -/
  | illegal (opcode : UInt8)
  | load (dest src : Operand)
  | loadWord (p : Pair)
  | storeSp
  | loadSpHl
  | loadHlSpOffset
  | push (p : Pair)
  | pop (p : Pair)
  | alu (op : AluOp) (src : Operand)
  | inc (place : Operand)
  | dec (place : Operand)
  | incWord (p : Pair)
  | decWord (p : Pair)
  | addHl (p : Pair)
  | addSpOffset
  | rlca
  | rrca
  | rla
  | rra
  | daa
  | cpl
  | scf
  | ccf
  | jump (condition : Option Condition)
  | jumpHl
  | jumpRelative (condition : Option Condition)
  | call (condition : Option Condition)
  | ret (condition : Option Condition)
  | reti
  | restart (vector : UInt8)
  | shift (op : ShiftOp) (place : Operand)
  | testBit (index : Fin 8) (place : Operand)
  | resetBit (index : Fin 8) (place : Operand)
  | setBit (index : Fin 8) (place : Operand)
  deriving DecidableEq, Repr

namespace Instruction

/-! ## Text -/

/-- A condition in front of a further operand. -/
private def conditionText : Option Condition → String
  | none => ""
  | some condition => condition.name ++ ", "

def text : Instruction → String
  | nop => "NOP"
  | stop => "STOP"
  | halt => "HALT"
  | di => "DI"
  | ei => "EI"
  | escape => "PREFIX"
  | illegal opcode => "ILLEGAL_" ++ Hex.byte opcode
  | load dest src => "LD " ++ dest.text ++ ", " ++ src.text
  | loadWord p => "LD " ++ p.name ++ ", n16"
  | storeSp => "LD (a16), SP"
  | loadSpHl => "LD SP, HL"
  | loadHlSpOffset => "LD HL, SP+e8"
  | push p => "PUSH " ++ p.name
  | pop p => "POP " ++ p.name
  | alu op src => op.name ++ " A, " ++ src.text
  | inc place => "INC " ++ place.text
  | dec place => "DEC " ++ place.text
  | incWord p => "INC " ++ p.name
  | decWord p => "DEC " ++ p.name
  | addHl p => "ADD HL, " ++ p.name
  | addSpOffset => "ADD SP, e8"
  | rlca => "RLCA"
  | rrca => "RRCA"
  | rla => "RLA"
  | rra => "RRA"
  | daa => "DAA"
  | cpl => "CPL"
  | scf => "SCF"
  | ccf => "CCF"
  | jump condition => "JP " ++ conditionText condition ++ "a16"
  | jumpHl => "JP HL"
  | jumpRelative condition => "JR " ++ conditionText condition ++ "e8"
  | call condition => "CALL " ++ conditionText condition ++ "a16"
  | ret none => "RET"
  | ret (some condition) => "RET " ++ condition.name
  | reti => "RETI"
  | restart vector => "RST $" ++ Hex.byte vector
  | shift op place => op.name ++ " " ++ place.text
  | testBit index place => "BIT " ++ toString index.val ++ ", " ++ place.text
  | resetBit index place => "RES " ++ toString index.val ++ ", " ++ place.text
  | setBit index place => "SET " ++ toString index.val ++ ", " ++ place.text

/-! ## Duration -/

/-- The clock cycles of an instruction started with the given flags, its opcode fetch included. -/
def cycles (flags : Flags) : Instruction → Nat
  | nop | stop | halt | di | ei | escape | illegal _ => 4
  | load dest src => 4 + src.cycles + dest.cycles
  | loadWord _ => 12
  | storeSp => 20
  | loadSpHl => 8
  | loadHlSpOffset => 12
  | push _ => 16
  | pop _ => 12
  | alu _ src => 4 + src.cycles
  | inc place | dec place => 4 + 2 * place.cycles
  | incWord _ | decWord _ | addHl _ => 8
  | addSpOffset => 16
  | rlca | rrca | rla | rra | daa | cpl | scf | ccf => 4
  | jump condition => if flags.holds condition then 16 else 12
  | jumpHl => 4
  | jumpRelative condition => if flags.holds condition then 12 else 8
  | call condition => if flags.holds condition then 24 else 12
  | ret none => 16
  | ret condition => if flags.holds condition then 20 else 8
  | reti | restart _ => 16
  | shift _ place => 8 + 2 * place.cycles
  | testBit _ place => 8 + place.cycles
  | resetBit _ place | setBit _ place => 8 + 2 * place.cycles

theorem cycles_pos (flags : Flags) (instruction : Instruction) : 0 < instruction.cycles flags := by
  cases instruction with
  | ret condition =>
    cases condition with
    | none => exact Nat.succ_pos _
    | some condition => simp only [cycles]; split <;> decide
  | jump | jumpRelative | call => simp only [cycles]; split <;> decide
  | _ => simp only [cycles]; omega

end Instruction

end GameBoy
