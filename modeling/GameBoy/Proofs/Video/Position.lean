import GameBoy.Proofs.Video.Schedule

/-!
# The position of the video unit

The position counts the dots of a frame, of which there are 70224.  It lives in two places, the
line register and the dot of the unit.  While the display is on, a run of some cycles moves it by
that many, around the frame, and reports a frame exactly if it gets around: `position_run` and
`frameDone_run`.  Neither depends on what the mode was.
-/

namespace GameBoy.Ppu

/-- The number of dots since the start of the frame. -/
def position (ppu : Ppu) (memory : Memory) : Nat := 456 * memory.line.toNat + ppu.dot

/-- The last line is followed by the first. -/
theorem toNat_lineAfter {line : UInt8} (h : line ≤ 153) :
    (lineAfter line).toNat = (line.toNat + 1) % 154 := by
  have hle : line.toNat ≤ 153 := UInt8.le_iff_toNat_le.mp h
  unfold lineAfter
  split
  · rename_i hlast
    have hge : 153 ≤ line.toNat := UInt8.le_iff_toNat_le.mp hlast
    rw [show line.toNat = 153 by omega]
    rfl
  · -- short of 153 the byte goes up without wrapping
    have hne : line.toNat ≠ 153 := by
      intro heq
      rename_i hlast
      exact hlast (UInt8.le_iff_toNat_le.mpr (Nat.le_of_eq heq.symm))
    rw [UInt8.toNat_add]
    show (line.toNat + 1) % 256 = _
    omega

namespace Run

/-- A place on the screen or in the vertical blank. -/
structure InFrame (run : Run) : Prop where
  dot_lt : run.ppu.dot < 456
  line_le : run.memory.line ≤ 153

theorem InFrame.position_lt {run : Run} (h : run.InFrame) :
    position run.ppu run.memory < 70224 := by
  have hdot := h.dot_lt
  have hline : run.memory.line.toNat ≤ 153 := UInt8.le_iff_toNat_le.mp h.line_le
  unfold position
  omega

/-! ## One advance -/

theorem line_advance_of_lt (run : Run) {dots : Nat} (h : run.ppu.dot + dots < dotsPerLine) :
    (run.advance dots).value.memory.line = run.memory.line := by
  rw [advance_of_lt run h, line_updateMode, memory_setDot]

theorem line_advance_of_le (run : Run) {dots : Nat} (h : dotsPerLine ≤ run.ppu.dot + dots) :
    (run.advance dots).value.memory.line = lineAfter run.memory.line := by
  rw [advance_of_le run h, Logged.value_bind, line_updateMode, line_nextLine, memory_setDot]

theorem dot_advance_of_lt (run : Run) {dots : Nat} (h : run.ppu.dot + dots < dotsPerLine) :
    (run.advance dots).value.ppu.dot = run.ppu.dot + dots := by
  rw [advance_of_lt run h, dot_updateMode, dot_setDot]

theorem dot_advance_of_le (run : Run) {dots : Nat} (h : dotsPerLine ≤ run.ppu.dot + dots) :
    (run.advance dots).value.ppu.dot = run.ppu.dot + dots - dotsPerLine := by
  rw [advance_of_le run h, Logged.value_bind, dot_updateMode, dot_nextLine, dot_setDot]

theorem frameDone_updateMode (run : Run) :
    run.updateMode.value.frameDone = run.frameDone := by
  rw [value_updateMode]

theorem frameDone_nextLine (run : Run) :
    run.nextLine.value.frameDone = (run.frameDone || lineAfter run.memory.line == 0) := by
  rw [value_nextLine]

/-! ## Moving around the frame -/

/-- A run that has moved on by some dots, around the frame if they reach its end. -/
structure MovedBy (dots : Nat) (run after : Run) : Prop where
  inFrame : after.InFrame
  position_eq :
    position after.ppu after.memory = (position run.ppu run.memory + dots) % 70224
  frameDone_eq :
    after.frameDone = (run.frameDone || decide (70224 ≤ position run.ppu run.memory + dots))

theorem MovedBy.trans {run middle after : Run} {first second : Nat} (hrun : run.InFrame)
    (h : MovedBy first run middle) (h' : MovedBy second middle after) :
    MovedBy (first + second) run after := by
  have hstart := hrun.position_lt
  refine ⟨h'.inFrame, ?_, ?_⟩
  · calc position after.ppu after.memory
        = (position middle.ppu middle.memory + second) % 70224 := h'.position_eq
      _ = ((position run.ppu run.memory + first) % 70224 + second) % 70224 := by
          rw [h.position_eq]
      _ = (position run.ppu run.memory + (first + second)) % 70224 := by
          rw [Nat.mod_add_mod, Nat.add_assoc]
  · rw [h'.frameDone_eq, h.frameDone_eq, h.position_eq, Bool.or_assoc, ← Bool.decide_or]
    -- a frame ends in one of the two parts exactly if it ends in both together
    congr 2
    apply propext
    omega

theorem InFrame.movedBy_zero {run : Run} (h : run.InFrame) : MovedBy 0 run run := by
  have hstart := h.position_lt
  refine ⟨h, (Nat.mod_eq_of_lt hstart).symm, ?_⟩
  rw [Nat.add_zero, decide_eq_false (Nat.not_le_of_lt hstart), Bool.or_false]

/-- Within a line the dot moves. -/
theorem InFrame.movedBy_of_lt {run : Run} (h : run.InFrame) {dots : Nat}
    (hlt : run.ppu.dot + dots < 456) : MovedBy dots run (run.advance dots).value := by
  have hline : run.memory.line.toNat ≤ 153 := UInt8.le_iff_toNat_le.mp h.line_le
  have hframe : ¬ 70224 ≤ position run.ppu run.memory + dots := by
    unfold position
    omega
  refine ⟨⟨?_, ?_⟩, ?_, ?_⟩
  · rw [dot_advance_of_lt run hlt]
    exact hlt
  · rw [line_advance_of_lt run hlt]
    exact h.line_le
  · rw [Nat.mod_eq_of_lt (Nat.lt_of_not_le hframe), position, dot_advance_of_lt run hlt,
      line_advance_of_lt run hlt, position, Nat.add_assoc]
  · rw [advance_of_lt run hlt, frameDone_updateMode, frameDone_setDot, decide_eq_false hframe,
      Bool.or_false]

/-- At its end the line register moves, and the frame ends with the last line. -/
theorem InFrame.movedBy_of_eq {run : Run} (h : run.InFrame) {dots : Nat}
    (hend : run.ppu.dot + dots = 456) : MovedBy dots run (run.advance dots).value := by
  have hge : dotsPerLine ≤ run.ppu.dot + dots := Nat.le_of_eq hend.symm
  have hline : run.memory.line.toNat ≤ 153 := UInt8.le_iff_toNat_le.mp h.line_le
  have hafter := toNat_lineAfter h.line_le
  -- the frame ends with line 153, which is followed by line 0
  have hwraps : 70224 ≤ position run.ppu run.memory + dots ↔ lineAfter run.memory.line = 0 := by
    rw [← UInt8.toNat_inj, hafter]
    show _ ↔ (run.memory.line.toNat + 1) % 154 = 0
    unfold position
    omega
  refine ⟨⟨?_, ?_⟩, ?_, ?_⟩
  · rw [dot_advance_of_le run hge, hend]
    decide
  · rw [line_advance_of_le run hge, UInt8.le_iff_toNat_le, hafter]
    exact Nat.le_of_lt_succ (Nat.mod_lt _ (by decide))
  · rw [position, dot_advance_of_le run hge, line_advance_of_le run hge, hafter, hend]
    show 456 * ((run.memory.line.toNat + 1) % 154) + 0 = _
    unfold position
    omega
  · rw [advance_of_le run hge, Logged.value_bind, frameDone_updateMode, frameDone_nextLine,
      frameDone_setDot, memory_setDot, decide_eq_decide.mpr hwraps]
    rfl

theorem InFrame.advance {run : Run} (h : run.InFrame) {dots : Nat}
    (hdots : run.ppu.dot + dots ≤ 456) : MovedBy dots run (run.advance dots).value := by
  rcases Nat.lt_or_eq_of_le hdots with hlt | hend
  · exact h.movedBy_of_lt hlt
  · exact h.movedBy_of_eq hend

/-- A walk of any length moves by its dots. -/
theorem InFrame.walk {run : Run} (h : run.InFrame) (dots : Nat) :
    MovedBy dots run (walk dots run).value := by
  induction dots, run using walk.induct with
  | case1 dots run hwalk chunk ih =>
      have hboundary : boundary run.ppu.dot ≤ 456 := boundary_le run.ppu.dot
      have hroom : run.ppu.dot < boundary run.ppu.dot := lt_boundary h.dot_lt
      have hchunk : run.ppu.dot + chunk ≤ 456 := by omega
      have hle : chunk ≤ dots := Nat.min_le_left _ _
      have hfirst := h.advance hchunk
      have hboth := hfirst.trans h (ih _ hfirst.inFrame)
      rw [Nat.add_sub_cancel' hle] at hboth
      rw [walk_of_pos run hwalk.2 hwalk.1, Logged.value_bind]
      exact hboth
  | case2 dots run hwalk =>
      -- the dot is in the line, so the walk has ended because no dots are left
      have hzero : dots = 0 := Nat.eq_zero_of_not_pos fun hpos => hwalk ⟨hpos, h.dot_lt⟩
      subst hzero
      rw [walk_zero]
      exact h.movedBy_zero

end Run

/-! ## Runs -/

section

variable {ppu : Ppu} {memory : Memory} (henabled : LcdControl.lcdEnabled memory.lcdControl = true)
  (hon : ppu.lcdOn = true) (hdot : ppu.dot < 456) (hline : memory.line ≤ 153)
include henabled hon hdot hline

theorem inFrame_run (cycles : Nat) : (ppu.run memory cycles).value.InFrame := by
  have hframe : Run.InFrame ⟨ppu, memory, false⟩ := ⟨hdot, hline⟩
  have hwalk := hframe.walk cycles
  rw [run_of_enabled henabled, switchOn_of_lcdOn hon, pure_bind]
  exact hwalk.inFrame

/-- While the display is on, a run moves the position by its cycles, around the frame. -/
theorem position_run (cycles : Nat) :
    position (ppu.run memory cycles).value.ppu (ppu.run memory cycles).value.memory =
      (position ppu memory + cycles) % 70224 := by
  have hframe : Run.InFrame ⟨ppu, memory, false⟩ := ⟨hdot, hline⟩
  have hwalk := hframe.walk cycles
  rw [run_of_enabled henabled, switchOn_of_lcdOn hon, pure_bind]
  exact hwalk.position_eq

/-- While the display is on, a run reports a frame exactly if it gets around the frame. -/
theorem frameDone_run (cycles : Nat) :
    (ppu.run memory cycles).value.frameDone = decide (70224 ≤ position ppu memory + cycles) := by
  have hframe : Run.InFrame ⟨ppu, memory, false⟩ := ⟨hdot, hline⟩
  have hwalk := hframe.walk cycles
  rw [run_of_enabled henabled, switchOn_of_lcdOn hon, pure_bind]
  exact hwalk.frameDone_eq

end

end GameBoy.Ppu
