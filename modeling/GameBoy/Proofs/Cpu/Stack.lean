import Mathlib.Tactic.Set
import GameBoy.Proofs.Cpu.Footprint
import GameBoy.Proofs.Cpu.Running

/-!
# The stack

The stack is a part of the address space, wherever the stack pointer happens to be, and it wraps
around at the end of it.  Three registers make poor cells of a stack, since they do not hold what is
written to them, or copy a page elsewhere; all other cells are `Bus.Faithful`.  On those, words come
back in reverse order and nothing else is disturbed, however many of them are pushed:
`popAll_pushAll`, by induction on the words.  The pops come after all the pushes, so what carries
the induction is that later pushes leave the two cells of the first word alone, and that takes a
stack of less than the whole address space, `not_mem_cellsBelow`.

So a subroutine finds its way back.  `Calls` names the steps that save a return address, `Returns`
those that resume at one, and `Returns.resumes` needs no more of what happens in between than that
the stack pointer is back and the two cells are as they were.  `stack_discipline` puts both
together.
-/

namespace GameBoy

/-! ## Cells that hold what is written to them -/

namespace Bus

/-- A cell that takes each byte as it is written, and whose writes reach no other cell. -/
structure Faithful (address : UInt16) : Prop where
  ne_joypad : address ≠ Address.joypad
  ne_divider : address ≠ Address.divider
  ne_objectTransfer : address ≠ Address.objectTransfer

instance : DecidablePred Faithful := fun address =>
  decidable_of_iff
    (address ≠ Address.joypad ∧ address ≠ Address.divider ∧ address ≠ Address.objectTransfer)
    ⟨fun h => ⟨h.1, h.2.1, h.2.2⟩,
      fun h => ⟨h.ne_joypad, h.ne_divider, h.ne_objectTransfer⟩⟩

theorem memory_write {w : Write} (h : Faithful w.address) (bus : Bus) :
    (bus.write w).value.memory = bus.memory.store w.address w.value := by
  rw [value_write]
  dsimp only
  rw [if_neg h.ne_objectTransfer, bus.taken_of_ne h.ne_joypad h.ne_divider]

end Bus

/-! ## The cells below an address -/

/-- The given number of cells below an address, the highest one first. -/
def cellsBelow (top : UInt16) : Nat → List UInt16
  | 0 => []
  | n + 1 => (top - 1) :: cellsBelow (top - 1) n

theorem cellsBelow_word (top : UInt16) (n : Nat) :
    cellsBelow top (2 * (n + 1)) = (top - 1) :: (top - 2) :: cellsBelow (top - 2) (2 * n) := by
  have htop : top - 1 - 1 = top - 2 := by grind
  rw [Nat.mul_succ, cellsBelow, cellsBelow, htop]

/-- The cells are as far below the top as they are many. -/
theorem toNat_sub_of_mem_cellsBelow {top cell : UInt16} {n : Nat} (hn : n < 65536)
    (h : cell ∈ cellsBelow top n) : 0 < (top - cell).toNat ∧ (top - cell).toNat ≤ n := by
  -- a distance is a remainder, and it is the bound on `n` that keeps it from starting again at zero
  induction n generalizing top with
  | zero => exact absurd h List.not_mem_nil
  | succ n ih =>
      have hone : (1 : UInt16).toNat = 1 := rfl
      have htop := top.toNat_lt
      have hcell := cell.toNat_lt
      rcases List.mem_cons.mp h with rfl | hrest
      · rw [UInt16.toNat_sub, UInt16.toNat_sub, hone]
        omega
      · obtain ⟨hpos, hle⟩ := ih (by omega) hrest
        rw [UInt16.toNat_sub, UInt16.toNat_sub, hone] at hpos hle
        rw [UInt16.toNat_sub]
        omega

/-- The two cells above a run of cells are not among them, unless it is as long as memory. -/
theorem not_mem_cellsBelow (top : UInt16) {n : Nat} (hn : n + 2 ≤ 65536) :
    top - 1 ∉ cellsBelow (top - 2) n ∧ top - 2 ∉ cellsBelow (top - 2) n := by
  constructor
  · intro hmem
    have hle := (toNat_sub_of_mem_cellsBelow (by omega) hmem).2
    -- going down from the second cell, the first one is the last to come
    have hfar : top - 2 - (top - 1) = 0xFFFF := by grind
    rw [hfar] at hle
    exact absurd hle (by show ¬ 65535 ≤ n; omega)
  · intro hmem
    have hpos := (toNat_sub_of_mem_cellsBelow (by omega) hmem).1
    rw [UInt16.sub_self] at hpos
    exact absurd hpos (by decide)

namespace Cpu

open Bus (Faithful)

/-! ## Pushing and popping -/

/-- A processor on a bus pushes a word. -/
def push (state : Cpu × Bus) (word : UInt16) : Cpu × Bus :=
  let outcome := state.1.pushWord word
  (outcome.cpu, (state.2.writeAll outcome.writes).value)

/-- A processor on a bus pushes words one after the other. -/
def pushAll (state : Cpu × Bus) (words : List UInt16) : Cpu × Bus := words.foldl push state

/-- Pops words one after the other. -/
def popAll (cpu : Cpu) (memory : Memory) : Nat → List UInt16 × Cpu
  | 0 => ([], cpu)
  | n + 1 =>
    let (word, cpu) := cpu.popWord memory
    let (words, cpu) := cpu.popAll memory n
    (word :: words, cpu)

/-- The last word may as well be popped after all the others. -/
theorem popAll_succ (cpu : Cpu) (memory : Memory) (n : Nat) :
    cpu.popAll memory (n + 1) =
      let (words, cpu) := cpu.popAll memory n
      let (word, cpu) := cpu.popWord memory
      (words ++ [word], cpu) := by
  -- the top word is popped first, so the last one is split off by induction on the others
  induction n generalizing cpu with
  | zero => rfl
  | succ n ih =>
      have hrest := ih { cpu with sp := cpu.sp + 2 }
      rw [popAll, popWord]
      dsimp only
      rw [hrest, popAll, popWord]
      dsimp only
      generalize popAll { cpu with sp := cpu.sp + 2 } memory n = popped
      rfl

section

variable {cpu : Cpu}

/-- The two writes of a word reach the two cells below the stack pointer. -/
theorem memory_pushes (bus : Bus) (hcells : ∀ cell ∈ cpu.stackCells, Faithful cell)
    (high low : UInt8) :
    (bus.writeAll [⟨cpu.sp - 1, high⟩, ⟨cpu.sp - 2, low⟩]).value.memory =
      (bus.memory.store (cpu.sp - 1) high).store (cpu.sp - 2) low := by
  have hfirst : Faithful (cpu.sp - 1) := hcells _ List.mem_cons_self
  have hsecond : Faithful (cpu.sp - 2) := hcells _ (List.mem_cons_of_mem _ List.mem_cons_self)
  show ((bus.write ⟨cpu.sp - 1, high⟩).value.write ⟨cpu.sp - 2, low⟩).value.memory = _
  rw [Bus.memory_write hsecond, Bus.memory_write hfirst]

/-- The cells of a word hold its two bytes. -/
theorem read_stackCells (memory : Memory) (sp : UInt16) (high low : UInt8) :
    ((memory.store (sp - 1) high).store (sp - 2) low).read (sp - 1) = high ∧
      ((memory.store (sp - 1) high).store (sp - 2) low).read (sp - 2) = low := by
  have hne : sp - 2 ≠ sp - 1 := by grind
  rw [Memory.read_store_of_ne _ hne, Memory.read_store_self, Memory.read_store_self]
  exact ⟨rfl, rfl⟩

/-- The word on top of the stack, read from the two cells below the stack pointer that it had
before. -/
theorem readWord_below (memory : Memory) (sp : UInt16) :
    memory.readWord (sp - 2) = Word.ofBytes (memory.read (sp - 2)) (memory.read (sp - 1)) := by
  have hnext : sp - 2 + 1 = sp - 1 := by grind
  rw [Memory.readWord, hnext]

end

/-- **Last in, first out.**  Words that are pushed onto faithful cells are popped in reverse order,
which restores the processor, and no other cell has changed. -/
theorem popAll_pushAll (state : Cpu × Bus) (words : List UInt16)
    (hlength : 2 * words.length ≤ 65536)
    (hcells : ∀ cell ∈ cellsBelow state.1.sp (2 * words.length), Faithful cell) :
    (pushAll state words).1.popAll (pushAll state words).2.memory words.length =
        (words.reverse, state.1) ∧
      Memory.SameOutside (cellsBelow state.1.sp (2 * words.length)) state.2.memory
        (pushAll state words).2.memory := by
  induction words generalizing state with
  | nil => exact ⟨rfl, .refl _⟩
  | cons word rest ih =>
      obtain ⟨cpu, bus⟩ := state
      dsimp only at hcells ⊢
      rw [List.length_cons] at hlength hcells ⊢
      rw [cellsBelow_word] at hcells ⊢
      have hfirst : ∀ cell ∈ cpu.stackCells, Faithful cell := by
        intro cell hcell
        exact hcells cell (List.mem_append_left _ hcell)
      -- `pushed` is the state after the first word, `after` the memory after all of them
      set pushed := push (cpu, bus) word with hpushed
      have hmemory : pushed.2.memory =
          (bus.memory.store (cpu.sp - 1) (Word.high word)).store (cpu.sp - 2) (Word.low word) :=
        memory_pushes bus hfirst (Word.high word) (Word.low word)
      obtain ⟨hpopped, hsame⟩ := ih pushed (by omega)
        fun cell hcell => hcells cell (List.mem_append_right [_, _] hcell)
      -- the other words go below the first one, where they do not reach its two cells
      obtain ⟨hhigh, hlow⟩ := not_mem_cellsBelow cpu.sp (n := 2 * rest.length) (by omega)
      have hall : pushAll (cpu, bus) (word :: rest) = pushAll pushed rest := rfl
      rw [hall]
      set after := (pushAll pushed rest).2.memory
      have hword : after.readWord pushed.1.sp = word := by
        show after.readWord (cpu.sp - 2) = word
        obtain ⟨hreadHigh, hreadLow⟩ :=
          read_stackCells bus.memory cpu.sp (Word.high word) (Word.low word)
        rw [readWord_below, hsame _ hhigh, hsame _ hlow, hmemory, hreadHigh, hreadLow,
          Word.ofBytes_low_high]
      constructor
      · -- the other words have been popped, and what is left on top is the first one
        have hrestored : ({ pushed.1 with sp := pushed.1.sp + 2 } : Cpu) = cpu := by
          show ({ cpu with sp := cpu.sp - 2 + 2 } : Cpu) = cpu
          rw [UInt16.sub_add_cancel]
        rw [popAll_succ, hpopped]
        show (rest.reverse ++ [after.readWord pushed.1.sp],
          ({ pushed.1 with sp := pushed.1.sp + 2 } : Cpu)) = _
        rw [hword, hrestored, List.reverse_cons]
      · -- the first word changes its own two cells, the other words the cells below them
        have hstores : Memory.SameOutside [cpu.sp - 1, cpu.sp - 2] bus.memory pushed.2.memory := by
          rw [hmemory]
          exact (Memory.SameOutside.store _ (by simp) _).trans (.store _ (by simp) _)
        exact (hstores.mono (List.subset_append_left [_, _] _)).trans
          (hsame.mono (List.subset_append_right [_, _] _))

/-! ## Calls and returns -/

/-- The next step leaves the program, which is to go on at the given address: it executes a call
that is taken or a restart, or it serves an interrupt. -/
inductive Calls (cpu : Cpu) (memory : Memory) : UInt16 → Prop
  | call {condition : Option Condition} {fetched : Cpu}
      (hexecutes : cpu.Executes memory (.call condition) fetched)
      (htaken : fetched.flags.holds condition = true) : Calls cpu memory (fetched.pc + 2)
  | restart {vector : UInt8} {fetched : Cpu}
      (hexecutes : cpu.Executes memory (.restart vector) fetched) : Calls cpu memory fetched.pc
  | service {source : Interrupt} (hserved : cpu.served? memory = some source) :
      Calls cpu memory cpu.returnAddress

/-- The next step executes a return that is taken, from a subroutine or from an interrupt. -/
inductive Returns (cpu : Cpu) (memory : Memory) : Prop
  | ret {condition : Option Condition} {fetched : Cpu}
      (hexecutes : cpu.Executes memory (.ret condition) fetched)
      (htaken : fetched.flags.holds condition = true)
  | reti {fetched : Cpu} (hexecutes : cpu.Executes memory .reti fetched)

section

variable {cpu : Cpu} {memory : Memory} {bus : Bus} {address : UInt16}

/-- A call ends with the two writes of its return address, whatever it has written before. -/
theorem Calls.step_eq (h : Calls cpu bus.memory address) :
    (cpu.step bus.memory).cpu.sp = cpu.sp - 2 ∧
      ∃ found : Bus, (bus.writeAll (cpu.step bus.memory).writes).value =
        (found.writeAll
          [⟨cpu.sp - 1, Word.high address⟩, ⟨cpu.sp - 2, Word.low address⟩]).value := by
  cases h with
  | call hexecutes htaken =>
      rename_i condition fetched
      have hexecute : fetched.execute bus.memory (.call condition) =
          ({ fetched with pc := fetched.pc + 2 } : Cpu).callTo (bus.memory.readWord fetched.pc) :=
        if_pos htaken
      rw [hexecutes.step_eq, ← hexecutes.sp_eq, hexecute]
      exact ⟨sp_countDown _, bus, rfl⟩
  | restart hexecutes =>
      rw [hexecutes.step_eq, ← hexecutes.sp_eq]
      exact ⟨sp_countDown _, bus, rfl⟩
  | service hserved =>
      -- the withdrawal comes first, and `found` is the bus that it leaves
      rw [step_of_served hserved]
      exact ⟨rfl, _, writeAll_withdraw bus _ _⟩

/-- A return goes on at the word on top of the stack. -/
theorem Returns.step_eq (h : Returns cpu memory) :
    (cpu.step memory).cpu.pc = memory.readWord cpu.sp ∧
      (cpu.step memory).cpu.sp = cpu.sp + 2 := by
  cases h with
  | ret hexecutes htaken =>
      rename_i condition fetched
      have hexecute : fetched.execute memory (.ret condition) =
          { cpu := fetched.returnToCaller memory } := by
        rw [execute, if_pos htaken]
      rw [hexecutes.step_eq, ← hexecutes.sp_eq, hexecute]
      exact ⟨pc_countDown _, sp_countDown _⟩
  | reti hexecutes =>
      rw [hexecutes.step_eq, ← hexecutes.sp_eq]
      exact ⟨pc_countDown _, sp_countDown _⟩

/-- What a call leaves in the two cells below the stack pointer. -/
theorem Calls.read_eq (h : Calls cpu bus.memory address)
    (hcells : ∀ cell ∈ cpu.stackCells, Faithful cell) :
    let memory := (stepOn (cpu, bus)).2.memory
    memory.read (cpu.sp - 1) = Word.high address ∧
      memory.read (cpu.sp - 2) = Word.low address := by
  obtain ⟨-, found, hfound⟩ := h.step_eq
  have hmemory : (stepOn (cpu, bus)).2.memory =
      (found.memory.store (cpu.sp - 1) (Word.high address)).store (cpu.sp - 2)
        (Word.low address) := by
    rw [← memory_pushes found hcells, ← hfound]
    rfl
  rw [hmemory]
  exact read_stackCells found.memory cpu.sp _ _

/-- A return resumes where a call has left, if it finds the stack pointer and the return address as
they were. -/
theorem Returns.resumes (hcalls : Calls cpu bus.memory address)
    (hcells : ∀ cell ∈ cpu.stackCells, Faithful cell) {later : Cpu}
    (hreturns : Returns later memory) (hsp : later.sp = (stepOn (cpu, bus)).1.sp)
    (hkept : ∀ cell ∈ cpu.stackCells,
      memory.read cell = (stepOn (cpu, bus)).2.memory.read cell) :
    (later.step memory).cpu.pc = address ∧ (later.step memory).cpu.sp = cpu.sp := by
  obtain ⟨hpc, hback⟩ := hreturns.step_eq
  -- the two cells still hold the address that the call has left there
  obtain ⟨hhigh, hlow⟩ := hcalls.read_eq hcells
  have htop : later.sp = cpu.sp - 2 := hsp.trans hcalls.step_eq.1
  have hkeptHigh := hkept (cpu.sp - 1) List.mem_cons_self
  have hkeptLow := hkept (cpu.sp - 2) (List.mem_cons_of_mem _ List.mem_cons_self)
  constructor
  · rw [hpc, htop, readWord_below, hkeptHigh, hkeptLow, hhigh, hlow, Word.ofBytes_low_high]
  · rw [hback, htop, UInt16.sub_add_cancel]

end

/-- **Stack discipline.**  Words pushed onto faithful cells come back in reverse order, with the
stack pointer where it was and no other cell changed.  And a call, a restart or the service of an
interrupt that pushes onto faithful cells is undone by any later return that finds the stack pointer
and the two cells as they were left: it resumes at the return address, with the stack pointer from
before the call. -/
theorem stack_discipline (cpu : Cpu) (bus : Bus) :
    (∀ words : List UInt16, 2 * words.length ≤ 65536 →
      (∀ cell ∈ cellsBelow cpu.sp (2 * words.length), Faithful cell) →
        let pushed := pushAll (cpu, bus) words
        pushed.1.popAll pushed.2.memory words.length = (words.reverse, cpu) ∧
          Memory.SameOutside (cellsBelow cpu.sp (2 * words.length)) bus.memory
            pushed.2.memory) ∧
    ∀ address, Calls cpu bus.memory address → (∀ cell ∈ cpu.stackCells, Faithful cell) →
      let called := stepOn (cpu, bus)
      ∀ (later : Cpu) (memory : Memory), later.sp = called.1.sp →
        (∀ cell ∈ cpu.stackCells, memory.read cell = called.2.memory.read cell) →
          Returns later memory →
            (later.step memory).cpu.pc = address ∧ (later.step memory).cpu.sp = cpu.sp := by
  constructor
  · intro words hlength hcells
    exact popAll_pushAll (cpu, bus) words hlength hcells
  · intro address hcalls hcells called later memory hsp hkept hreturns
    exact hreturns.resumes hcalls hcells hsp hkept

/-! ### A stack across the end of memory -/

/-- A processor whose next word goes to the first cell and the last one. -/
def callingCpu : Cpu := { powerOn with sp := 0x0001 }

/-- A bus with a restart at the entry point and a return where that goes. -/
def restartBus : Bus where
  memory := (Memory.blank.store 0x0100 0xFF).store 0x0038 0xC9
  joypad := .idle
  dividerReset := false
  serial := #[]

theorem read_restartBus (address : UInt16) :
    restartBus.memory.read address =
      if 0x0038 = address then 0xC9 else if 0x0100 = address then 0xFF else 0 := by
  simp only [restartBus, Memory.read_store, Memory.read_blank]

theorem executes_restartBus :
    callingCpu.Executes restartBus.memory (.restart 0x38) { callingCpu with pc := 0x0101 } := by
  have hopcode : restartBus.memory.read 0x0100 = 0xFF := by
    rw [read_restartBus]
    decide
  have hdecode : Instruction.decode (restartBus.memory.read 0x0100) = .restart 0x38 := by
    rw [hopcode]
    rfl
  exact executes_of_off rfl rfl rfl hdecode Instruction.noConfusion

/-- The restart ends on the return, which is still in its place. -/
theorem returns_restartBus :
    let called := stepOn (callingCpu, restartBus)
    called.1.sp = 0xFFFF ∧ Returns called.1 called.2.memory := by
  intro called
  have hcpu : called.1 = { callingCpu with pc := 0x0038, sp := 0xFFFF, cycles := 16 } := by
    show (callingCpu.step restartBus.memory).cpu = _
    rw [executes_restartBus.step_eq]
    rfl
  have hwrites : (callingCpu.step restartBus.memory).writes =
      [⟨0x0000, 0x01⟩, ⟨0xFFFF, 0x01⟩] := by
    rw [executes_restartBus.step_eq]
    rfl
  have hopcode : called.2.memory.read 0x0038 = 0xC9 := by
    show (restartBus.writeAll (callingCpu.step restartBus.memory).writes).value.memory.read
      0x0038 = 0xC9
    -- the pushes go to the two ends of the address space, past the routine
    rw [hwrites, Bus.read_writeAll_of_not_mem _ _ (by decide) (.inl (by decide)), read_restartBus]
    rfl
  have hdecode : Instruction.decode (called.2.memory.read 0x0038) = .ret none := by
    rw [hopcode]
    rfl
  rw [hcpu]
  exact ⟨rfl, .ret (executes_of_off rfl rfl rfl hdecode Instruction.noConfusion) rfl⟩

/-- Two words and a return address across the end of memory. -/
theorem stack_discipline_wrapping :
    ((2 * [(0x1234 : UInt16), 0xABCD].length ≤ 65536 ∧
        ∀ cell ∈ cellsBelow callingCpu.sp 4, Faithful cell) ∧
      let pushed := pushAll (callingCpu, restartBus) [0x1234, 0xABCD]
      pushed.1.popAll pushed.2.memory 2 = ([0xABCD, 0x1234], callingCpu)) ∧
    let called := stepOn (callingCpu, restartBus)
    Calls callingCpu restartBus.memory 0x0101 ∧ (∀ cell ∈ callingCpu.stackCells, Faithful cell) ∧
      Returns called.1 called.2.memory ∧
      (called.1.step called.2.memory).cpu.pc = 0x0101 ∧
      (called.1.step called.2.memory).cpu.sp = 0x0001 := by
  have hcells : ∀ cell ∈ [(0x0000 : UInt16), 0xFFFF, 0xFFFE, 0xFFFD], Faithful cell := by
    simp only [List.forall_mem_cons]
    exact ⟨by decide, by decide, by decide, by decide, List.forall_mem_nil _⟩
  have hpair : ∀ cell ∈ callingCpu.stackCells, Faithful cell := by
    intro cell hcell
    exact hcells cell (List.mem_append_left [0xFFFE, 0xFFFD] hcell)
  have hcalls : Calls callingCpu restartBus.memory 0x0101 := .restart executes_restartBus
  obtain ⟨-, hreturns⟩ := returns_restartBus
  obtain ⟨hwords, hresumes⟩ := stack_discipline callingCpu restartBus
  have hback := hresumes 0x0101 hcalls hpair _ _ rfl (fun _ _ => rfl) hreturns
  exact ⟨⟨⟨by decide, hcells⟩, (hwords [0x1234, 0xABCD] (by decide) hcells).1⟩, hcalls, hpair,
    hreturns, hback.1, hback.2⟩

end Cpu

end GameBoy
