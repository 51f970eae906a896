import GameBoy.Proofs.Video.Picture
import GameBoy.Proofs.Video.Status

/-!
# What one advance of the video unit does

An advance moves the dot; at the end of a line it enters the next line, and in either case it
brings the mode in line with the new position.  `value_updateMode` and `value_nextLine` give the
two parts as plain records, and the lemmas after them say what each part leaves alone.

An advance does not look at the mode bits of the status register: `advance_showMode`.
-/

namespace GameBoy

theorem Mode.le_alertBit {mode : Mode} {statusBit : Nat} (h : mode.alertBit = some statusBit) :
    3 ≤ statusBit := by
  cases mode <;> cases h <;> decide

namespace Ppu

open Memory (SameOutside)

/-! ## Drawing -/

/-- No cell of a picture is among those the video unit writes. -/
theorem samePicture_of_sameOutside {first second : Memory}
    (h : SameOutside videoCells first second) : second.SamePicture first := by
  intro address haddress
  apply h
  intro hmem
  simp only [videoCells, List.mem_cons, List.not_mem_nil, or_false] at hmem
  rcases hmem with rfl | rfl | rfl
  all_goals exact absurd haddress (by decide)

theorem drawRow_congr (ppu : Ppu) {first second : Memory} (h : first.SamePicture second)
    (line : Nat) : ppu.drawRow first line = ppu.drawRow second line := by
  unfold drawRow
  split
  · rename_i hline
    simp only [h.windowOn, h.row _ hline]
  · rfl

@[simp] theorem dot_drawRow (ppu : Ppu) (memory : Memory) (line : Nat) :
    (ppu.drawRow memory line).dot = ppu.dot := by
  unfold drawRow
  split <;> rfl

@[simp] theorem mode_drawRow (ppu : Ppu) (memory : Memory) (line : Nat) :
    (ppu.drawRow memory line).mode = ppu.mode := by
  unfold drawRow
  split <;> rfl

@[simp] theorem lcdOn_drawRow (ppu : Ppu) (memory : Memory) (line : Nat) :
    (ppu.drawRow memory line).lcdOn = ppu.lcdOn := by
  unfold drawRow
  split <;> rfl

namespace Run

/-- Moves a run within its line. -/
def setDot (run : Run) (dot : Nat) : Run := { run with ppu := { run.ppu with dot } }

/-- Writes a mode into the status register of a run. -/
def showMode (run : Run) (mode : Mode) : Run := { run with memory := storeMode run.memory mode }

/-- Remembers that a frame has ended before the run, if it has. -/
def orDone (run : Run) (done : Bool) : Run := { run with frameDone := done || run.frameDone }

section

variable (run : Run) (dot : Nat) (mode : Mode)

@[simp] theorem dot_setDot : (run.setDot dot).ppu.dot = dot := rfl

@[simp] theorem mode_setDot : (run.setDot dot).ppu.mode = run.ppu.mode := rfl

@[simp] theorem lcdOn_setDot : (run.setDot dot).ppu.lcdOn = run.ppu.lcdOn := rfl

@[simp] theorem memory_setDot : (run.setDot dot).memory = run.memory := rfl

@[simp] theorem frameDone_setDot : (run.setDot dot).frameDone = run.frameDone := rfl

@[simp] theorem ppu_orDone (done : Bool) : (run.orDone done).ppu = run.ppu := rfl

theorem setDot_showMode : (run.showMode mode).setDot dot = (run.setDot dot).showMode mode := rfl

end

/-! ## The two ways to advance -/

theorem advance_of_lt (run : Run) {dots : Nat} (h : run.ppu.dot + dots < dotsPerLine) :
    run.advance dots = (run.setDot (run.ppu.dot + dots)).updateMode := by
  obtain ⟨⟨dot, mode, lcdOn, windowLine, frame⟩, memory, frameDone⟩ := run
  exact if_pos h

theorem advance_of_le (run : Run) {dots : Nat} (h : dotsPerLine ≤ run.ppu.dot + dots) :
    run.advance dots =
      (run.setDot (run.ppu.dot + dots - dotsPerLine)).nextLine >>= updateMode := by
  obtain ⟨⟨dot, mode, lcdOn, windowLine, frame⟩, memory, frameDone⟩ := run
  exact if_neg (Nat.not_lt.mpr h)

/-- Memory after a change of mode, before the new mode is shown. -/
def enterMode (memory : Memory) (old new : Mode) : Logged Memory :=
  if new = old then pure memory
  else
    match new.alertBit with
    | none => pure memory
    | some statusBit => alert memory statusBit

theorem value_updateMode (run : Run) :
    run.updateMode.value =
      let mode := Mode.ofPosition run.memory.line run.ppu.dot
      { ppu := { run.ppu with mode }
        memory := storeMode (enterMode run.memory run.ppu.mode mode).value mode
        frameDone := run.frameDone } := by
  obtain ⟨ppu, memory, frameDone⟩ := run
  unfold updateMode enterMode
  dsimp only
  generalize Mode.ofPosition memory.line ppu.dot = mode
  split
  · rfl
  · cases mode.alertBit <;> rfl

/-- Memory after entering a line: the line is compared and the vertical blank announced. -/
def enterLine (memory : Memory) (line : UInt8) : Memory :=
  (announceVblank (compareLine (memory.store Address.line line) line).value line).value

/-- The unit on entering a line, before the line is drawn. -/
def startLine (ppu : Ppu) (line : UInt8) : Ppu :=
  let ppu := if line = 144 then { ppu with mode := .vblank } else ppu
  if line = 0 then { ppu with windowLine := 0 } else ppu

theorem value_nextLine (run : Run) :
    run.nextLine.value =
      let line := lineAfter run.memory.line
      let memory := enterLine run.memory line
      { ppu := (startLine run.ppu line).drawRow memory line.toNat
        memory
        frameDone := run.frameDone || line == 0 } := by
  obtain ⟨ppu, memory, frameDone⟩ := run
  rfl

/-! ## The cells that change -/

theorem sameOutside_enterMode (memory : Memory) (old new : Mode) :
    SameOutside [Address.interruptRequest] memory (enterMode memory old new).value := by
  unfold enterMode
  split
  · exact .refl memory
  · cases new.alertBit with
    | none => exact .refl memory
    | some statusBit => exact sameOutside_alert memory statusBit

theorem sameOutside_updateMode (run : Run) :
    SameOutside [Address.lcdStatus, Address.interruptRequest] run.memory
      run.updateMode.value.memory := by
  rw [value_updateMode]
  exact ((sameOutside_enterMode _ _ _).mono (by decide)).trans
    ((sameOutside_storeMode _ _).mono (by decide))

/-- Entering a line writes its number; what follows leaves the line register alone. -/
theorem sameOutside_enterLine (memory : Memory) (line : UInt8) :
    SameOutside [Address.lcdStatus, Address.interruptRequest] (memory.store Address.line line)
      (enterLine memory line) :=
  (sameOutside_compareLine _ line).trans ((sameOutside_announceVblank _ line).mono (by decide))

theorem sameOutside_nextLine (run : Run) :
    SameOutside videoCells run.memory run.nextLine.value.memory := by
  rw [value_nextLine]
  exact (SameOutside.store run.memory (by decide) _).trans
    ((sameOutside_enterLine _ _).mono (by decide))

theorem sameOutside_advance (run : Run) (dots : Nat) :
    SameOutside videoCells run.memory (run.advance dots).value.memory := by
  rcases Nat.lt_or_ge (run.ppu.dot + dots) dotsPerLine with h | h
  · rw [advance_of_lt run h]
    generalize run.ppu.dot + dots = dot
    exact (sameOutside_updateMode (run.setDot dot)).mono (by decide)
  · rw [advance_of_le run h, Logged.value_bind]
    generalize run.ppu.dot + dots - dotsPerLine = dot
    have hnext : SameOutside videoCells run.memory (run.setDot dot).nextLine.value.memory :=
      sameOutside_nextLine (run.setDot dot)
    exact hnext.trans ((sameOutside_updateMode _).mono (by decide))

theorem line_updateMode (run : Run) : run.updateMode.value.memory.line = run.memory.line :=
  sameOutside_updateMode run Address.line (by decide)

theorem line_enterLine (memory : Memory) (line : UInt8) :
    (enterLine memory line).line = line :=
  (sameOutside_enterLine memory line Address.line (by decide)).trans (Memory.read_store_self ..)

theorem line_nextLine (run : Run) :
    run.nextLine.value.memory.line = lineAfter run.memory.line := by
  rw [value_nextLine]
  exact line_enterLine _ _

/-! ## The parts of the unit that change -/

@[simp] theorem dot_updateMode (run : Run) : run.updateMode.value.ppu.dot = run.ppu.dot := by
  rw [value_updateMode]

@[simp] theorem dot_startLine (ppu : Ppu) (line : UInt8) : (startLine ppu line).dot = ppu.dot := by
  unfold startLine
  dsimp only
  split <;> split <;> rfl

@[simp] theorem lcdOn_startLine (ppu : Ppu) (line : UInt8) :
    (startLine ppu line).lcdOn = ppu.lcdOn := by
  unfold startLine
  dsimp only
  split <;> split <;> rfl

@[simp] theorem dot_nextLine (run : Run) : run.nextLine.value.ppu.dot = run.ppu.dot := by
  rw [value_nextLine]
  exact (dot_drawRow _ _ _).trans (dot_startLine _ _)

@[simp] theorem lcdOn_updateMode (run : Run) :
    run.updateMode.value.ppu.lcdOn = run.ppu.lcdOn := by
  rw [value_updateMode]

@[simp] theorem lcdOn_nextLine (run : Run) :
    run.nextLine.value.ppu.lcdOn = run.ppu.lcdOn := by
  rw [value_nextLine]
  exact (lcdOn_drawRow _ _ _).trans (lcdOn_startLine _ _)

theorem lcdOn_advance (run : Run) (dots : Nat) :
    (run.advance dots).value.ppu.lcdOn = run.ppu.lcdOn := by
  rcases Nat.lt_or_ge (run.ppu.dot + dots) dotsPerLine with h | h
  · rw [advance_of_lt run h, lcdOn_updateMode, lcdOn_setDot]
  · rw [advance_of_le run h, Logged.value_bind, lcdOn_updateMode, lcdOn_nextLine, lcdOn_setDot]

/-! ## What is shown of the mode is not looked at -/

theorem nextLine_showMode (run : Run) (mode : Mode) :
    (run.showMode mode).nextLine = (·.showMode mode) <$> run.nextLine := by
  obtain ⟨ppu, memory, frameDone⟩ := run
  -- neither the line nor the picture depends on the mode that is shown
  have hline : (storeMode memory mode).line = memory.line := read_storeMode memory mode (by decide)
  have hdraw (ppu : Ppu) (memory : Memory) (line : Nat) :
      ppu.drawRow (storeMode memory mode) line = ppu.drawRow memory line :=
    drawRow_congr ppu (samePicture_of_sameOutside
      ((sameOutside_storeMode memory mode).mono (by decide))) line
  unfold nextLine
  dsimp only [showMode]
  rw [hline, ← storeMode_store memory mode (by decide), compareLine_storeMode]
  simp only [map_bind, bind_map_left, announceVblank_storeMode, hdraw, map_pure]

theorem updateMode_showMode (run : Run) (mode : Mode) :
    (run.showMode mode).updateMode = run.updateMode := by
  obtain ⟨ppu, memory, frameDone⟩ := run
  have hline : (storeMode memory mode).line = memory.line := read_storeMode memory mode (by decide)
  unfold updateMode
  dsimp only [showMode]
  rw [hline]
  split
  · simp only [pure_bind, storeMode_storeMode]
  · cases halert : (Mode.ofPosition memory.line ppu.dot).alertBit with
    | none => simp only [pure_bind, storeMode_storeMode]
    | some statusBit =>
        -- an alert looks at a bit above the two that hold the mode
        have hbit : 2 ≤ statusBit := Nat.le_of_succ_le (Mode.le_alertBit halert)
        simp only [alert_storeMode _ _ hbit, bind_map_left, storeMode_storeMode]

theorem advance_showMode (run : Run) (mode : Mode) (dots : Nat) :
    (run.showMode mode).advance dots = run.advance dots := by
  rcases Nat.lt_or_ge (run.ppu.dot + dots) dotsPerLine with h | h
  · rw [advance_of_lt run h, advance_of_lt (run.showMode mode) h, setDot_showMode,
      updateMode_showMode]
    rfl
  · rw [advance_of_le run h, advance_of_le (run.showMode mode) h, setDot_showMode,
      nextLine_showMode, bind_map_left]
    simp only [updateMode_showMode]
    rfl

/-! ## Frames that have ended before -/

theorem nextLine_orDone (run : Run) (done : Bool) :
    (run.orDone done).nextLine = (·.orDone done) <$> run.nextLine := by
  obtain ⟨ppu, memory, frameDone⟩ := run
  unfold nextLine
  simp only [orDone, map_bind, map_pure, Bool.or_assoc]
  rfl

theorem updateMode_orDone (run : Run) (done : Bool) :
    (run.orDone done).updateMode = (·.orDone done) <$> run.updateMode := by
  obtain ⟨ppu, memory, frameDone⟩ := run
  unfold updateMode
  dsimp only [orDone]
  split
  · rfl
  · cases (Mode.ofPosition memory.line ppu.dot).alertBit <;> simp only [map_bind, map_pure]

theorem advance_orDone (run : Run) (done : Bool) (dots : Nat) :
    (run.orDone done).advance dots = (·.orDone done) <$> run.advance dots := by
  have hdot (dot : Nat) : (run.orDone done).setDot dot = (run.setDot dot).orDone done := rfl
  rcases Nat.lt_or_ge (run.ppu.dot + dots) dotsPerLine with h | h
  · rw [advance_of_lt run h, advance_of_lt (run.orDone done) h, hdot, updateMode_orDone]
    rfl
  · rw [advance_of_le run h, advance_of_le (run.orDone done) h, hdot, nextLine_orDone,
      bind_map_left, map_bind]
    simp only [updateMode_orDone]
    rfl

end Run

end Ppu

end GameBoy
