/-!
# Operands

The places an instruction can name: byte registers, register pairs, immediate bytes and memory
cells, and the conditions under which a branch is taken.
-/

namespace GameBoy

/-! ## Registers -/

/-- A byte register. -/
inductive Register
  | a | b | c | d | e | h | l
  deriving DecidableEq, Repr

def Register.name : Register → String
  | a => "A"
  | b => "B"
  | c => "C"
  | d => "D"
  | e => "E"
  | h => "H"
  | l => "L"

/-- A word register: two byte registers seen together, or the stack pointer. -/
inductive Pair
  | af | bc | de | hl | sp
  deriving DecidableEq, Repr

def Pair.name : Pair → String
  | af => "AF"
  | bc => "BC"
  | de => "DE"
  | hl => "HL"
  | sp => "SP"

/-! ## Conditions -/

/-- The flag test of a conditional branch. -/
inductive Condition
  | notZero | zero | notCarry | carry
  deriving DecidableEq, Repr

namespace Condition

def name : Condition → String
  | notZero => "NZ"
  | zero => "Z"
  | notCarry => "NC"
  | carry => "C"

/-- The condition in column `index` (modulo four) of the branch opcodes. -/
def ofIndex (index : Nat) : Condition :=
  match index % 4 with
  | 0 => notZero
  | 1 => zero
  | 2 => notCarry
  | _ => carry

end Condition

/-! ## Operands -/

/-- The place of a byte operand. -/
inductive Operand
  | register (r : Register)
  /-- The byte that follows the opcode. -/
  | immediate
  /-- The cell whose address is the word that follows the opcode. -/
  | absolute
  /-- The cell of the last page selected by the byte that follows the opcode. -/
  | high
  /-- The cell of the last page selected by a byte register. -/
  | highRegister (r : Register)
  /-- The cell a word register points at. -/
  | indirect (p : Pair)
  /-- Like `indirect`, and the register then moves one cell down. -/
  | indirectDecrement (p : Pair)
  /-- Like `indirect`, and the register then moves one cell up. -/
  | indirectIncrement (p : Pair)
  deriving DecidableEq, Repr

namespace Operand

/-- The operand in column `index` (modulo eight) of the regular opcode blocks. -/
def ofIndex (index : Nat) : Operand :=
  match index % 8 with
  | 0 => register .b
  | 1 => register .c
  | 2 => register .d
  | 3 => register .e
  | 4 => register .h
  | 5 => register .l
  | 6 => indirect .hl
  | _ => register .a

/-- The clock cycles of one access: four for each byte fetched and for the cell itself. -/
def cycles : Operand → Nat
  | register _ => 0
  | immediate | highRegister _ | indirect _ | indirectDecrement _ | indirectIncrement _ => 4
  | high => 8
  | absolute => 12

/-- The bytes that the operand occupies after the opcode. -/
def length : Operand → Nat
  | register _ | highRegister _ | indirect _ | indirectDecrement _ | indirectIncrement _ => 0
  | immediate | high => 1
  | absolute => 2

def text : Operand → String
  | register r => r.name
  | immediate => "n8"
  | absolute => "(a16)"
  | high => "(a8)"
  | highRegister r => "(" ++ r.name ++ ")"
  | indirect p => "(" ++ p.name ++ ")"
  | indirectDecrement p => "(" ++ p.name ++ "-)"
  | indirectIncrement p => "(" ++ p.name ++ "+)"

end Operand

end GameBoy
