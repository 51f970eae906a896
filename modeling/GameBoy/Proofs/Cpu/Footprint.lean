import GameBoy.Proofs.Cpu.Control
import GameBoy.Proofs.Cpu.Encoded

/-!
# What an instruction leaves alone

The footprint of an instruction is what it may change: the cells it writes, `Cpu.cellsWritten`, the
byte registers it names as its destination, `Instruction.destinations`, and the stack pointer, the
flags and the control state, each for a few kinds of instructions only.  Everything else is as it
was before, `framed_execute`.

Accesses to operands come first, since most instructions consist of them: `Cpu.SameOutside` relates
the processor to itself after one.  It rests on the table of opcodes: an access that moves AF or SP
on would reach the flags or the stack pointer, but nothing encodes it.
-/

namespace GameBoy

/-! ## Footprints -/

/-- The byte registers that make up a pair. -/
def Pair.registers : Pair → List Register
  | .af => [.a]
  | .bc => [.b, .c]
  | .de => [.d, .e]
  | .hl => [.h, .l]
  | .sp => []

namespace Operand

/-- The byte registers that an access moves on. -/
def movedRegisters (place : Operand) : List Register := (place.moved?.map Pair.registers).getD []

/-- The byte registers that change when an operand is written. -/
def destinations : Operand → List Register
  | register r => [r]
  | place => place.movedRegisters

end Operand

namespace Instruction

/-- The byte registers that an instruction names as its destination; HL is one where an access moves
it on. -/
def destinations : Instruction → List Register
  | load dest src => dest.destinations ++ src.movedRegisters
  | loadWord p | pop p | incWord p | decWord p => p.registers
  | loadHlSpOffset | addHl _ => [.h, .l]
  | alu .cp _ => []
  | alu _ _ | rlca | rrca | rla | rra | daa | cpl => [.a]
  | inc place | dec place | shift _ place | resetBit _ place | setBit _ place =>
    place.destinations
  | _ => []

/-- Whether an instruction moves the stack pointer; a conditional one does if it is taken. -/
def movesStack (flags : Flags) : Instruction → Bool
  | loadWord .sp | loadSpHl | addSpOffset | incWord .sp | decWord .sp => true
  | push _ | pop _ | reti | restart _ => true
  | call condition | ret condition => flags.holds condition
  | _ => false

/-- Whether an instruction halts the processor or switches the interrupts. -/
def isControl : Instruction → Bool
  | ei | di | reti | halt | stop => true
  | _ => false

/-- Whether an instruction sets any of the flags. -/
def setsFlags : Instruction → Bool
  | loadHlSpOffset | pop .af | addHl _ | addSpOffset => true
  | alu _ _ | inc _ | dec _ | shift _ _ | testBit _ _ => true
  | rlca | rrca | rla | rra | daa | cpl | scf | ccf => true
  | _ => false

/-- Instructions that set flags but not the carry. -/
def keepsCarry : Instruction → Bool
  | inc _ | dec _ | testBit _ _ | cpl => true
  | _ => false

/-- Instructions that set flags but not the zero flag. -/
def keepsZero : Instruction → Bool
  | addHl _ | scf | ccf | cpl => true
  | _ => false

end Instruction

namespace Cpu

/-- The cell that an operand names, if it is in memory. -/
def cell? (cpu : Cpu) (memory : Memory) : Operand → Option UInt16
  | .register _ | .immediate => none
  | .absolute => some (memory.readWord cpu.pc)
  | .high => some (highCell (memory.read cpu.pc))
  | .highRegister r => some (highCell (cpu.register r))
  | .indirect p | .indirectDecrement p | .indirectIncrement p => some (cpu.pair p)

/-- The two cells that a word pushed next goes to. -/
def stackCells (cpu : Cpu) : List UInt16 := [cpu.sp - 1, cpu.sp - 2]

/-- The cells that an instruction writes, in order.  The destination of a load is looked up after
its source. -/
def cellsWritten (cpu : Cpu) (memory : Memory) : Instruction → List UInt16
  | .load dest src => ((cpu.readOperand memory src).2.cell? memory dest).toList
  | .inc place | .dec place | .shift _ place | .resetBit _ place | .setBit _ place =>
    (cpu.cell? memory place).toList
  | .storeSp => [memory.readWord cpu.pc, memory.readWord cpu.pc + 1]
  | .push _ | .restart _ => cpu.stackCells
  | .call condition => if cpu.flags.holds condition then cpu.stackCells else []
  | _ => []

/-! ## Accesses -/

/-- All byte registers but the given ones are kept, and no time has passed. -/
structure KeepsRegisters (registers : List Register) (before after : Cpu) : Prop where
  cycles_eq : after.cycles = before.cycles
  register_eq : ∀ r ∉ registers, after.register r = before.register r

/-- The second processor is the first one but for the program counter, the control state and the
given byte registers. -/
structure SameOutside (registers : List Register) (before after : Cpu) : Prop
    extends KeepsRegisters registers before after where
  sp_eq : after.sp = before.sp
  flags_eq : after.flags = before.flags

section

variable {registers larger : List Register} {before middle after : Cpu}

protected theorem KeepsRegisters.trans (h : KeepsRegisters registers before middle)
    (h' : KeepsRegisters registers middle after) : KeepsRegisters registers before after where
  cycles_eq := h'.cycles_eq.trans h.cycles_eq
  register_eq r hr := (h'.register_eq r hr).trans (h.register_eq r hr)

protected theorem KeepsRegisters.mono (h : KeepsRegisters registers before after)
    (hsubset : registers ⊆ larger) : KeepsRegisters larger before after where
  cycles_eq := h.cycles_eq
  register_eq r hr := h.register_eq r fun hmem => hr (hsubset hmem)

protected theorem SameOutside.trans (h : SameOutside registers before middle)
    (h' : SameOutside registers middle after) : SameOutside registers before after where
  toKeepsRegisters := h.toKeepsRegisters.trans h'.toKeepsRegisters
  sp_eq := h'.sp_eq.trans h.sp_eq
  flags_eq := h'.flags_eq.trans h.flags_eq

protected theorem SameOutside.mono (h : SameOutside registers before after)
    (hsubset : registers ⊆ larger) : SameOutside larger before after where
  toKeepsRegisters := h.toKeepsRegisters.mono hsubset
  sp_eq := h.sp_eq
  flags_eq := h.flags_eq

end

variable (cpu : Cpu) (memory : Memory)

theorem sameOutside_setPc (pc : UInt16) : SameOutside [] cpu { cpu with pc } :=
  ⟨⟨rfl, fun _ _ => rfl⟩, rfl, rfl⟩

theorem keepsRegisters_setRegister (value : UInt8) (r : Register) :
    KeepsRegisters [r] cpu (cpu.setRegister value r) where
  cycles_eq := by cases r <;> rfl
  register_eq s hs := by
    rw [register_setRegister, if_neg fun heq => hs (List.mem_singleton.mpr heq.symm)]

theorem keepsRegisters_setPair (value : UInt16) (p : Pair) :
    KeepsRegisters p.registers cpu (cpu.setPair value p) where
  cycles_eq := by cases p <;> rfl
  register_eq r hr := by
    cases p <;> cases r
    all_goals first
      | rfl
      | exact absurd hr (by decide)

theorem sp_setPair (value : UInt16) {p : Pair} (hp : p ≠ .sp) :
    (cpu.setPair value p).sp = cpu.sp := by
  cases p with
  | sp => exact absurd rfl hp
  | _ => rfl

theorem flags_setPair (value : UInt16) {p : Pair} (hp : p ≠ .af) :
    (cpu.setPair value p).flags = cpu.flags := by
  cases p with
  | af => exact absurd rfl hp
  | _ => rfl

theorem sameOutside_setHl (value : UInt16) :
    SameOutside Pair.hl.registers cpu (cpu.setPair value .hl) :=
  ⟨cpu.keepsRegisters_setPair value .hl, rfl, rfl⟩

theorem sameOutside_readOperand {place : Operand} (hplace : place.MovesOnlyHl) :
    SameOutside place.movedRegisters cpu (cpu.readOperand memory place).2 := by
  cases place with
  | immediate | absolute | high => exact cpu.sameOutside_setPc _
  | register r | highRegister r | indirect p => exact cpu.sameOutside_setPc cpu.pc
  | indirectDecrement p | indirectIncrement p =>
      obtain rfl := hplace p rfl
      exact cpu.sameOutside_setHl _

theorem sameOutside_writeOperand (value : UInt8) {place : Operand} (hplace : place.MovesOnlyHl) :
    SameOutside place.destinations cpu (cpu.writeOperand memory value place).cpu := by
  cases place with
  | register r =>
      refine ⟨cpu.keepsRegisters_setRegister value r, ?_, ?_⟩
      · cases r <;> rfl
      · cases r <;> rfl
  | absolute | high => exact cpu.sameOutside_setPc _
  | immediate | highRegister r | indirect p => exact cpu.sameOutside_setPc cpu.pc
  | indirectDecrement p | indirectIncrement p =>
      -- an encoding moves no register but HL
      obtain rfl := hplace p rfl
      exact cpu.sameOutside_setHl _

/-- An operand that moves nothing is read without any change but to the program counter. -/
theorem sameOutside_read {place : Operand} (hplace : place.moved? = none) :
    SameOutside [] cpu (cpu.readOperand memory place).2 := by
  have hread := cpu.sameOutside_readOperand memory (.of_eq_none hplace)
  rwa [Operand.movedRegisters, hplace] at hread

theorem sameOutside_writeBack (value : UInt8) {place : Operand} (hplace : place.moved? = none) :
    SameOutside place.destinations cpu
      ((cpu.readOperand memory place).2.writeOperand memory value place).cpu := by
  have hread := cpu.sameOutside_read memory hplace
  have hwrite := sameOutside_writeOperand (cpu.readOperand memory place).2 memory value
    (.of_eq_none hplace)
  exact (hread.mono (List.nil_subset _)).trans hwrite

theorem sameOutside_load {dest src : Operand} (hdest : dest.MovesOnlyHl) (hsrc : src.MovesOnlyHl) :
    SameOutside (dest.destinations ++ src.movedRegisters) cpu
      (cpu.execute memory (.load dest src)).cpu := by
  have hread := cpu.sameOutside_readOperand memory hsrc
  have hwrite := sameOutside_writeOperand (cpu.readOperand memory src).2 memory
    (cpu.readOperand memory src).1 hdest
  exact (hread.mono (List.subset_append_right ..)).trans
    (hwrite.mono (List.subset_append_left ..))

/-! ## Executing, part by part -/

variable {instruction : Instruction}

theorem sp_execute (h : instruction.Steady) (hkeeps : instruction.movesStack cpu.flags = false) :
    (cpu.execute memory instruction).cpu.sp = cpu.sp := by
  -- accesses to operands are done; of the rest, what moves the stack pointer contradicts `hkeeps`
  cases instruction with
  | load dest src => exact (cpu.sameOutside_load memory h.1 h.2).sp_eq
  | alu op place =>
      rw [← (cpu.sameOutside_read memory h).sp_eq]
      cases op <;> rfl
  | testBit index place => exact (cpu.sameOutside_read memory h).sp_eq
  | inc place | dec place | shift op place | resetBit index place | setBit index place =>
      exact (cpu.sameOutside_writeBack memory _ h).sp_eq
  | loadWord p | incWord p | decWord p =>
      have hp : p ≠ .sp := by
        rintro rfl
        exact Bool.noConfusion hkeeps
      exact sp_setPair _ _ hp
  | halt | ei | jump condition | jumpRelative condition =>
      simp only [execute, halt]
      split <;> rfl
  | call condition | ret condition =>
      have hskips : cpu.flags.holds condition = false := hkeeps
      simp only [execute, fetchWord, hskips]
      rfl
  | push p | pop p | loadSpHl | addSpOffset | reti | restart vector =>
      exact Bool.noConfusion hkeeps
  | _ => rfl

theorem flags_execute (h : instruction.Steady) (hkeeps : instruction.setsFlags = false) :
    (cpu.execute memory instruction).cpu.flags = cpu.flags := by
  -- what is not named leaves the flags by definition, or it sets them and contradicts `hkeeps`
  cases instruction with
  | load dest src => exact (cpu.sameOutside_load memory h.1 h.2).flags_eq
  | resetBit index place | setBit index place =>
      exact (cpu.sameOutside_writeBack memory _ h).flags_eq
  | loadWord p | incWord p | decWord p => exact flags_setPair _ _ h
  | pop p =>
      have hp : p ≠ .af := by
        rintro rfl
        exact Bool.noConfusion hkeeps
      exact flags_setPair _ _ hp
  | halt | ei | jump condition | jumpRelative condition | call condition | ret condition =>
      simp only [execute, halt]
      split <;> rfl
  | _ => first | rfl | exact Bool.noConfusion hkeeps

theorem carry_execute (h : instruction.Steady) (hkeeps : instruction.keepsCarry = true) :
    (cpu.execute memory instruction).cpu.flags.c = cpu.flags.c := by
  cases instruction with
  | inc place | dec place | testBit index place =>
      -- the carry handed on is the one found after the operand has been read
      rw [← (cpu.sameOutside_read memory h).flags_eq]
      rfl
  | cpl => rfl
  | _ => exact Bool.noConfusion hkeeps

theorem zero_execute (hkeeps : instruction.keepsZero = true) :
    (cpu.execute memory instruction).cpu.flags.z = cpu.flags.z := by
  cases instruction with
  | addHl p | scf | ccf | cpl => rfl
  | _ => exact Bool.noConfusion hkeeps

theorem keepsRegisters_moveStack (pc sp : UInt16) :
    KeepsRegisters [] cpu { cpu with pc, sp } :=
  ⟨rfl, fun _ _ => rfl⟩

theorem keepsRegisters_alu (op : AluOp) (place : Operand) (operand : UInt8) :
    KeepsRegisters (Instruction.alu op place).destinations cpu (cpu.alu op operand) := by
  cases op with
  | cp => exact ⟨rfl, fun _ _ => rfl⟩
  | _ => exact ⟨rfl, (cpu.keepsRegisters_setRegister _ .a).register_eq⟩

theorem keepsRegisters_execute (h : instruction.Steady) :
    KeepsRegisters instruction.destinations cpu (cpu.execute memory instruction).cpu := by
  -- the rotations, `DAA` and `CPL` leave their result in A
  have haccumulator (value : UInt8) : KeepsRegisters [.a] cpu (cpu.setRegister value .a) :=
    cpu.keepsRegisters_setRegister value .a
  cases instruction with
  | load dest src => exact (cpu.sameOutside_load memory h.1 h.2).toKeepsRegisters
  | alu op place =>
      have hread := (cpu.sameOutside_read memory h).toKeepsRegisters
      exact (hread.mono (List.nil_subset _)).trans (keepsRegisters_alu _ op place _)
  | testBit index place =>
      have hread := (cpu.sameOutside_read memory h).toKeepsRegisters
      exact ⟨hread.cycles_eq, hread.register_eq⟩
  | inc place | dec place | shift op place | resetBit index place | setBit index place =>
      have hwrite (value : UInt8) := cpu.sameOutside_writeBack memory value h
      -- the flags are set on top of that, which no register sees
      exact ⟨(hwrite _).cycles_eq, (hwrite _).register_eq⟩
  | loadWord p | incWord p | decWord p | pop p =>
      exact ⟨(keepsRegisters_setPair _ _ p).cycles_eq, (keepsRegisters_setPair _ _ p).register_eq⟩
  | loadHlSpOffset | addHl p =>
      exact ⟨rfl, (keepsRegisters_setPair cpu _ .hl).register_eq⟩
  | rlca | rrca | rla | rra | daa | cpl => exact ⟨rfl, (haccumulator _).register_eq⟩
  | jump condition | jumpRelative condition | call condition | ret condition =>
      simp only [execute]
      split <;> exact cpu.keepsRegisters_moveStack _ _
  | halt | ei =>
      simp only [execute, halt]
      split <;> exact ⟨rfl, fun _ _ => rfl⟩
  | _ => exact ⟨rfl, fun _ _ => rfl⟩

/-- Only the five instructions of the control state change it. -/
theorem control_execute_of_keeps (hkeeps : instruction.isControl = false) :
    (cpu.execute memory instruction).cpu.control = cpu.control := by
  rw [control_execute]
  cases instruction with
  | ei | di | reti | halt | stop => exact Bool.noConfusion hkeeps
  | _ => rfl

/-! ### The cells written -/

theorem addresses_writeOperand (value : UInt8) (place : Operand) :
    (cpu.writeOperand memory value place).writes.map Write.address =
      (cpu.cell? memory place).toList := by
  cases place <;> rfl

/-- A place that moves nothing and has no operand bytes names the same cell after it has been
read. -/
theorem cell?_readOperand {place : Operand} (hlength : place.length = 0)
    (hmoved : place.moved? = none) :
    (cpu.readOperand memory place).2.cell? memory place = cpu.cell? memory place := by
  cases place with
  | immediate | absolute | high => exact absurd hlength (by decide)
  | indirectDecrement p | indirectIncrement p => exact absurd hmoved nofun
  | _ => rfl

theorem addresses_execute (hregular : instruction.Regular) (hsteady : instruction.Steady) :
    (cpu.execute memory instruction).writes.map Write.address =
      cpu.cellsWritten memory instruction := by
  cases instruction with
  | load dest src => exact addresses_writeOperand _ memory _ dest
  | inc place | dec place | shift op place | resetBit index place | setBit index place =>
      -- a place is written where it was read; reading has not moved it
      rw [cellsWritten, ← cpu.cell?_readOperand memory hregular hsteady]
      exact addresses_writeOperand _ memory _ place
  | halt | ei =>
      simp only [execute, halt]
      split <;> rfl
  | call condition =>
      cases htaken : cpu.flags.holds condition <;>
        simp only [execute, fetchWord, cellsWritten, htaken] <;> rfl
  | _ => rfl

end Cpu

/-! ## Writes and the bus -/

namespace Bus

variable (bus : Bus)

/-- A cell that is not written is kept, unless a transfer reaches it. -/
theorem read_write_of_ne (w : Write) {address : UInt16} (hne : w.address ≠ address)
    (htransfer : w.address ≠ Address.objectTransfer ∨
      ¬ (0xFE00 ≤ address.toNat ∧ address.toNat < 0xFEA0)) :
    (bus.write w).value.memory.read address = bus.memory.read address := by
  -- a write starts no transfer, or one that stays away from the address
  rcases htransfer with hplain | houtside
  · rw [value_write]
    dsimp only
    rw [if_neg hplain, Memory.read_store_of_ne _ hne]
  · rw [read_write_of_outside bus w houtside, if_neg hne]

theorem read_writeAll_of_not_mem (writes : List Write) {address : UInt16}
    (hne : address ∉ writes.map Write.address)
    (htransfer : Address.objectTransfer ∉ writes.map Write.address ∨
      ¬ (0xFE00 ≤ address.toNat ∧ address.toNat < 0xFEA0)) :
    (bus.writeAll writes).value.memory.read address = bus.memory.read address := by
  induction writes generalizing bus with
  | nil => rfl
  | cons first rest ih =>
      rw [List.map_cons, List.mem_cons, not_or] at hne
      have hfirst : first.address ≠ Address.objectTransfer ∨
          ¬ (0xFE00 ≤ address.toNat ∧ address.toNat < 0xFEA0) :=
        htransfer.imp_left fun hnone heq => hnone (heq ▸ List.mem_cons_self)
      have hrest : Address.objectTransfer ∉ rest.map Write.address ∨
          ¬ (0xFE00 ≤ address.toNat ∧ address.toNat < 0xFEA0) :=
        htransfer.imp_left fun hnone hmem => hnone (List.mem_cons_of_mem _ hmem)
      rw [writeAll, Logged.value_bind, ih _ hne.2 hrest,
        bus.read_write_of_ne first (Ne.symm hne.1) hfirst]

end Bus

namespace Cpu

/-! ## The frame -/

/-- What is kept by an instruction that leaves the given outcome. -/
structure Framed (cpu : Cpu) (bus : Bus) (instruction : Instruction) (outcome : Outcome) :
    Prop where
  /-- The bus sees one write for each cell of the footprint. -/
  addresses_eq :
    outcome.writes.map Write.address = cpu.cellsWritten bus.memory instruction
  /-- Memory, the keys, the latch of the divider and the serial link change by writes only. -/
  bus_eq : cpu.cellsWritten bus.memory instruction = [] →
    (bus.writeAll outcome.writes).value = bus
  /-- Cells that are not written are kept, but for those that a transfer copies to. -/
  read_eq : ∀ address ∉ cpu.cellsWritten bus.memory instruction,
    Address.objectTransfer ∉ cpu.cellsWritten bus.memory instruction ∨
        ¬ (0xFE00 ≤ address.toNat ∧ address.toNat < 0xFEA0) →
      (bus.writeAll outcome.writes).value.memory.read address = bus.memory.read address
  sp_eq : instruction.movesStack cpu.flags = false → outcome.cpu.sp = cpu.sp
  control_eq : instruction.isControl = false → outcome.cpu.control = cpu.control
  flags_eq : instruction.setsFlags = false → outcome.cpu.flags = cpu.flags
  carry_eq : instruction.keepsCarry = true → outcome.cpu.flags.c = cpu.flags.c
  zero_eq : instruction.keepsZero = true → outcome.cpu.flags.z = cpu.flags.z
  register_eq : ∀ r ∉ instruction.destinations, outcome.cpu.register r = cpu.register r
  cycles_eq : outcome.cpu.cycles = cpu.cycles

/-- **Frame law.**  An encoded instruction changes nothing outside its footprint, whatever the
registers and the memory. -/
theorem framed_execute {instruction : Instruction} (hencoded : instruction.Encoded) (cpu : Cpu)
    (bus : Bus) : Framed cpu bus instruction (cpu.execute bus.memory instruction) := by
  have hsteady := hencoded.steady
  have haddresses := cpu.addresses_execute bus.memory hencoded.regular hsteady
  have hkeeps := cpu.keepsRegisters_execute bus.memory hsteady
  exact
    { addresses_eq := haddresses
      bus_eq := by
        intro hnone
        -- without an address there is no write, and the bus is handed on as it is
        rw [hnone, List.map_eq_nil_iff] at haddresses
        rw [haddresses]
        rfl
      read_eq := by
        intro address hcell htransfer
        rw [← haddresses] at hcell htransfer
        exact bus.read_writeAll_of_not_mem _ hcell htransfer
      sp_eq := cpu.sp_execute bus.memory hsteady
      control_eq := cpu.control_execute_of_keeps bus.memory
      flags_eq := cpu.flags_execute bus.memory hsteady
      carry_eq := cpu.carry_execute bus.memory hsteady
      zero_eq := cpu.zero_execute bus.memory
      register_eq := hkeeps.register_eq
      cycles_eq := hkeeps.cycles_eq }

/-- DEC (HL) with HL at the request register. -/
theorem framed_execute_dec :
    (Instruction.dec (.indirect .hl)).Encoded ∧
    (let cpu : Cpu := { powerOn with h := 0xFF, l := 0x0F, flags := { c := true } }
      let outcome := cpu.execute (alertedBus 0x1F).memory (.dec (.indirect .hl))
      outcome.writes.map Write.address = [Address.interruptRequest] ∧
        outcome.cpu.flags.c = true ∧ outcome.cpu.sp = 0xFFFE ∧ outcome.cpu.a = 0x01 ∧
        ((alertedBus 0x1F).writeAll outcome.writes).value.memory.read
          Address.interruptEnable = 0x1F) := by
  have hencoded : (Instruction.dec (.indirect .hl)).Encoded := .inl ⟨0x35, rfl⟩
  have hframed := framed_execute hencoded
    { powerOn with h := 0xFF, l := 0x0F, flags := { c := true } } (alertedBus 0x1F)
  refine ⟨hencoded, hframed.addresses_eq, hframed.carry_eq rfl, hframed.sp_eq rfl,
    hframed.register_eq .a List.not_mem_nil, ?_⟩
  rw [hframed.read_eq Address.interruptEnable (by decide) (.inr (by decide)), read_alertedBus]
  rfl

end Cpu

end GameBoy
