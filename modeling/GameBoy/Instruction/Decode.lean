import GameBoy.Instruction.Basic

/-!
# Decoding

An opcode is split into a block (two bits), a row (three bits) and a column (three bits).  The
regular blocks read an operand off the row or the column; every one of the 256 opcodes, and every
one of the 256 bytes that may follow 0xCB, stands for exactly one instruction.
-/

namespace GameBoy.Instruction

/-- The word registers of loads and word arithmetic, by half row (modulo four). -/
def pairOfIndex (index : Nat) : Pair :=
  match index % 4 with
  | 0 => .bc
  | 1 => .de
  | 2 => .hl
  | _ => .sp

/-- The word registers of the stack instructions, by half row (modulo four). -/
def stackPairOfIndex (index : Nat) : Pair :=
  match index % 4 with
  | 0 => .bc
  | 1 => .de
  | 2 => .hl
  | _ => .af

/-- The cells of the accumulator's indirect loads, by half row (modulo four). -/
def pointerOfIndex (index : Nat) : Operand :=
  match index % 4 with
  | 0 => .indirect .bc
  | 1 => .indirect .de
  | 2 => .indirectIncrement .hl
  | _ => .indirectDecrement .hl

abbrev accumulator : Operand := .register .a

/-! ## The four blocks of the base table -/

/-- Loads of immediate values, pointer loads, increments and relative jumps. -/
def ofBlock0 (row column : Nat) : Instruction :=
  let even := row % 2 == 0
  match column with
  | 0 =>
    match row with
    | 0 => nop
    | 1 => storeSp
    | 2 => stop
    | 3 => jumpRelative none
    | _ => jumpRelative (some (.ofIndex row))
  | 1 => if even then loadWord (pairOfIndex (row / 2)) else addHl (pairOfIndex (row / 2))
  | 2 =>
    if even then load (pointerOfIndex (row / 2)) accumulator
    else load accumulator (pointerOfIndex (row / 2))
  | 3 => if even then incWord (pairOfIndex (row / 2)) else decWord (pairOfIndex (row / 2))
  | 4 => inc (.ofIndex row)
  | 5 => dec (.ofIndex row)
  | 6 => load (.ofIndex row) .immediate
  | _ =>
    match row with
    | 0 => rlca
    | 1 => rrca
    | 2 => rla
    | 3 => rra
    | 4 => daa
    | 5 => cpl
    | 6 => scf
    | _ => ccf

/-- Loads between regular operands; the load from (HL) to (HL) is taken by `halt`. -/
def ofBlock1 (row column : Nat) : Instruction :=
  if row = 6 ∧ column = 6 then halt else load (.ofIndex row) (.ofIndex column)

/-- Returns, calls, absolute jumps, stack traffic and the accumulator with an immediate byte. -/
def ofBlock3 (opcode : UInt8) (row column : Nat) : Instruction :=
  let even := row % 2 == 0
  match column with
  | 0 =>
    match row with
    | 4 => load .high accumulator
    | 5 => addSpOffset
    | 6 => load accumulator .high
    | 7 => loadHlSpOffset
    | _ => ret (some (.ofIndex row))
  | 1 =>
    if even then pop (stackPairOfIndex (row / 2))
    else
      match row with
      | 1 => ret none
      | 3 => reti
      | 5 => jumpHl
      | _ => loadSpHl
  | 2 =>
    match row with
    | 4 => load (.highRegister .c) accumulator
    | 5 => load .absolute accumulator
    | 6 => load accumulator (.highRegister .c)
    | 7 => load accumulator .absolute
    | _ => jump (some (.ofIndex row))
  | 3 =>
    match row with
    | 0 => jump none
    | 1 => escape
    | 6 => di
    | 7 => ei
    | _ => illegal opcode
  | 4 => if row < 4 then call (some (.ofIndex row)) else illegal opcode
  | 5 =>
    if even then push (stackPairOfIndex (row / 2))
    else if row = 1 then call none
    else illegal opcode
  | 6 => alu (.ofIndex row) .immediate
  | _ => restart (UInt8.ofNat (row * 8))

/-! ## The two tables -/

/-- The instruction of an opcode in the base table. -/
def decode (opcode : UInt8) : Instruction :=
  let row := opcode.toNat / 8 % 8
  let column := opcode.toNat % 8
  match opcode.toNat / 64 with
  | 0 => ofBlock0 row column
  | 1 => ofBlock1 row column
  | 2 => alu (.ofIndex row) (.ofIndex column)
  | _ => ofBlock3 opcode row column

/-- The instruction of a byte that follows the opcode 0xCB. -/
def decodeExtended (opcode : UInt8) : Instruction :=
  let row := opcode.toNat / 8
  let place := Operand.ofIndex opcode.toNat
  let index : Fin 8 := Fin.ofNat 8 row
  match opcode.toNat / 64 with
  | 0 => shift (.ofIndex row) place
  | 1 => testBit index place
  | 2 => resetBit index place
  | _ => setBit index place

end GameBoy.Instruction
