import GameBoy.Proofs.Video.Switching

/-!
# The video unit after a run

The state of the video unit is spread over its own fields and cells that software may write: the
line, the mode shown in the status register, the switch of the display.  A run brings all of them
in line again, whatever software has made of them, as long as the dot is one of the line:
`settled_run`.
-/

namespace GameBoy.Ppu

/-- A dark unit waits at the start of the first line, the mode of a lit one is that of its position,
and the status register shows the mode. -/
structure Settled (ppu : Ppu) (memory : Memory) : Prop where
  dot_lt : ppu.dot < dotsPerLine
  dark : LcdControl.lcdEnabled memory.lcdControl = false →
    ppu.dot = 0 ∧ memory.line = 0 ∧ ppu.mode = .hblank
  lit : LcdControl.lcdEnabled memory.lcdControl = true →
    ppu.mode = Mode.ofPosition memory.line ppu.dot
  status_eq : memory.lcdStatus &&& 0x03 = ppu.mode.number

theorem Run.dot_walk_lt {run : Run} (h : run.ppu.dot < dotsPerLine) (dots : Nat) :
    (walk dots run).value.ppu.dot < dotsPerLine :=
  walk_induction (P := fun other => other.ppu.dot < dotsPerLine)
    (fun _ _ hdots _ => (aligned_advance hdots).dot_lt) dots run h

theorem settled_switchOff (ppu : Ppu) {memory : Memory}
    (h : LcdControl.lcdEnabled memory.lcdControl = false) :
    Settled (ppu.switchOff memory).value.ppu (ppu.switchOff memory).value.memory := by
  have hcontrol := lcdControl_eq (ppu.sameOutside_switchOff memory)
  refine ⟨(by decide : 0 < dotsPerLine), fun _ => ⟨rfl, ppu.line_switchOff memory, rfl⟩,
    fun hlit => ?_, status_storeMode _ _⟩
  rw [hcontrol, h] at hlit
  exact absurd hlit Bool.false_ne_true

/-- A run of at least one cycle settles the unit, wherever software has put it in the frame. -/
theorem settled_run {ppu : Ppu} (h : ppu.dot < dotsPerLine) (memory : Memory) {cycles : Nat}
    (hcycles : 0 < cycles) :
    Settled (ppu.run memory cycles).value.ppu (ppu.run memory cycles).value.memory := by
  cases henabled : LcdControl.lcdEnabled memory.lcdControl with
  | false =>
      rw [run_of_disabled henabled]
      exact settled_switchOff ppu henabled
  | true =>
      have hcontrol := lcdControl_eq (ppu.sameOutside_run memory cycles)
      have hstart := dot_switchOn_lt h memory
      have hshown := Run.shown_walk hstart hcycles
      rw [run_of_enabled henabled, Logged.value_bind] at hcontrol ⊢
      refine ⟨Run.dot_walk_lt hstart cycles, fun hdark => ?_, fun _ => hshown.mode_eq,
        hshown.status_eq⟩
      rw [hcontrol, henabled] at hdark
      exact absurd hdark.symm Bool.false_ne_true

end GameBoy.Ppu
