import GameBoy.Proofs.Video.Rows

/-!
# The lines that are entered

A line is reported when it is entered, and only then, so the journal of a run tells which lines it
has entered: `enteredLines`.  Moving from one place to another, around the frame if need be, enters
the lines that begin between the two, in order and once each: `linesBetween`, `enteredLines_runs`.

Entering lines is all that changes the picture.  After any runs the screen is the one made by
entering just the lines reported, one after the other: `sameScreen_runs`.
-/

namespace GameBoy

/-! ## Reading the journal -/

/-- The line that an entry reports to be entered. -/
def Entry.enteredLine : Entry → Option UInt8
  | .lineAdvanced _ new => some new
  | _ => none

/-- The lines that a journal reports to be entered, in order. -/
def enteredLines (journal : Array Entry) : List UInt8 :=
  journal.toList.filterMap Entry.enteredLine

@[simp] theorem enteredLines_empty : enteredLines #[] = [] := rfl

@[simp] theorem enteredLines_append (first second : Array Entry) :
    enteredLines (first ++ second) = enteredLines first ++ enteredLines second := by
  rw [enteredLines, Array.toList_append, List.filterMap_append]
  rfl

namespace Ppu

@[simp] theorem enteredLines_request (memory : Memory) (source : Interrupt) :
    enteredLines (memory.request source).journal = [] := rfl

@[simp] theorem enteredLines_alert (memory : Memory) (statusBit : Nat) :
    enteredLines (alert memory statusBit).journal = [] := by
  unfold alert
  split <;> rfl

@[simp] theorem enteredLines_compareLine (memory : Memory) (line : UInt8) :
    enteredLines (compareLine memory line).journal = [] := by
  unfold compareLine
  dsimp only
  split <;> simp

@[simp] theorem enteredLines_announceVblank (memory : Memory) (line : UInt8) :
    enteredLines (announceVblank memory line).journal = [] := by
  unfold announceVblank
  split <;> simp

namespace Run

@[simp] theorem enteredLines_updateMode (run : Run) :
    enteredLines run.updateMode.journal = [] := by
  obtain ⟨ppu, memory, frameDone⟩ := run
  unfold updateMode
  dsimp only
  generalize Mode.ofPosition memory.line ppu.dot = mode
  split
  · rfl
  · cases mode.alertBit <;> simp

theorem enteredLines_nextLine (run : Run) :
    enteredLines run.nextLine.journal = [lineAfter run.memory.line] := by
  obtain ⟨ppu, memory, frameDone⟩ := run
  have hnote (old new : UInt8) :
      enteredLines (Logged.note (.lineAdvanced old new)).journal = [new] := rfl
  unfold nextLine
  simp [hnote]

theorem enteredLines_advance_of_lt (run : Run) {dots : Nat}
    (h : run.ppu.dot + dots < dotsPerLine) : enteredLines (run.advance dots).journal = [] := by
  rw [advance_of_lt run h, enteredLines_updateMode]

theorem enteredLines_advance_of_le (run : Run) {dots : Nat}
    (h : dotsPerLine ≤ run.ppu.dot + dots) :
    enteredLines (run.advance dots).journal = [lineAfter run.memory.line] := by
  rw [advance_of_le run h, Logged.journal_bind, enteredLines_append, enteredLines_updateMode,
    enteredLines_nextLine, List.append_nil, memory_setDot]

end Run

/-! ## The lines between two places -/

/-- The lines that begin after one place and not after another. -/
def linesBetween (start stop : Nat) : List UInt8 :=
  (List.range' (start / 456 + 1) (stop / 456 - start / 456)).map fun n => UInt8.ofNat (n % 154)

theorem linesBetween_self (start : Nat) : linesBetween start start = [] := by
  rw [linesBetween, Nat.sub_self]
  rfl

theorem linesBetween_append {start middle stop : Nat} (h : start ≤ middle) (h' : middle ≤ stop) :
    linesBetween start middle ++ linesBetween middle stop = linesBetween start stop := by
  have hfirst : start / 456 ≤ middle / 456 := Nat.div_le_div_right h
  have hsecond : middle / 456 ≤ stop / 456 := Nat.div_le_div_right h'
  have hmiddle : middle / 456 + 1 = start / 456 + 1 + (middle / 456 - start / 456) := by omega
  have hcount : stop / 456 - start / 456 =
      middle / 456 - start / 456 + (stop / 456 - middle / 456) := by omega
  unfold linesBetween
  rw [hmiddle, ← List.map_append, List.range'_append_1, hcount]

/-- Only the place in the frame matters. -/
theorem linesBetween_mod (start dots : Nat) :
    linesBetween (start % 70224) (start % 70224 + dots) = linesBetween start (start + dots) := by
  have hfirst : start / 456 + 1 = 154 * (start / 70224) + (start % 70224 / 456 + 1) := by omega
  have hcount : (start + dots) / 456 - start / 456 =
      (start % 70224 + dots) / 456 - start % 70224 / 456 := by omega
  -- both count the same number of lines, from line numbers that are whole frames apart
  unfold linesBetween
  rw [hfirst, hcount, ← List.map_add_range' (a := 154 * (start / 70224)), List.map_map]
  apply List.map_congr_left
  intro n _
  show _ = UInt8.ofNat ((154 * (start / 70224) + n) % 154)
  rw [Nat.mul_add_mod]

namespace Run

variable {run : Run}

theorem lineAfter_eq {line : UInt8} (h : line ≤ 153) :
    lineAfter line = UInt8.ofNat ((line.toNat + 1) % 154) := by
  rw [← toNat_lineAfter h, UInt8.ofNat_toNat]

theorem InFrame.enteredLines_advance (h : run.InFrame) {dots : Nat}
    (hdots : run.ppu.dot + dots ≤ 456) :
    enteredLines (run.advance dots).journal =
      linesBetween (position run.ppu run.memory) (position run.ppu run.memory + dots) := by
  have hdot := h.dot_lt
  have hstart : position run.ppu run.memory / 456 = run.memory.line.toNat := by
    unfold position
    omega
  unfold linesBetween
  rw [hstart]
  -- the chunk enters no line, or it ends one and enters the next
  rcases Nat.lt_or_eq_of_le hdots with hlt | hend
  · have hstop : (position run.ppu run.memory + dots) / 456 = run.memory.line.toNat := by
      unfold position
      omega
    rw [enteredLines_advance_of_lt run hlt, hstop, Nat.sub_self]
    rfl
  · have hstop : (position run.ppu run.memory + dots) / 456 = run.memory.line.toNat + 1 := by
      unfold position
      omega
    rw [enteredLines_advance_of_le run (Nat.le_of_eq hend.symm), hstop, Nat.add_sub_cancel_left,
      lineAfter_eq h.line_le]
    rfl

/-- A walk enters the lines between its ends. -/
theorem InFrame.enteredLines_walk (h : run.InFrame) (dots : Nat) :
    enteredLines (Run.walk dots run).journal =
      linesBetween (position run.ppu run.memory) (position run.ppu run.memory + dots) := by
  -- by the recursion of the walk; the lines of the first chunk come before those of the rest
  induction dots, run using walk.induct with
  | case1 dots run hwalk chunk ih =>
      have hboundary : boundary run.ppu.dot ≤ 456 := boundary_le run.ppu.dot
      have hroom : run.ppu.dot < boundary run.ppu.dot := lt_boundary h.dot_lt
      have hchunk : run.ppu.dot + chunk ≤ 456 := by omega
      have hle : chunk ≤ dots := Nat.min_le_left _ _
      have hfirst := h.advance hchunk
      have hrest := ih _ hfirst.inFrame
      -- the second part starts from a place in the frame, which is as good as the sum
      rw [hfirst.position_eq, linesBetween_mod] at hrest
      generalize hstart : position run.ppu run.memory = start at hrest
      calc enteredLines (Run.walk dots run).journal
          = enteredLines (run.advance chunk).journal ++
              enteredLines (Run.walk (dots - chunk) (run.advance chunk).value).journal := by
            rw [walk_of_pos run hwalk.2 hwalk.1, Logged.journal_bind, enteredLines_append]
        _ = linesBetween start (start + chunk) ++
              linesBetween (start + chunk) (start + chunk + (dots - chunk)) := by
            rw [h.enteredLines_advance hchunk, hstart, hrest]
        _ = linesBetween start (start + dots) := by
            rw [linesBetween_append (Nat.le_add_right _ _) (Nat.le_add_right _ _), Nat.add_assoc,
              Nat.add_sub_cancel' hle]
  | case2 dots run hwalk =>
      have hzero : dots = 0 := Nat.eq_zero_of_not_pos fun hpos => hwalk ⟨hpos, h.dot_lt⟩
      subst hzero
      rw [walk_zero, Nat.add_zero, linesBetween_self]
      rfl

end Run

/-! ## The screen -/

/-- The effect on the screen of entering a line. -/
def enter (memory : Memory) (ppu : Ppu) (line : UInt8) : Ppu :=
  (Run.startLine ppu line).drawRow memory line.toNat

/-- Two units that show the same, and go on with the same row of the window. -/
structure SameScreen (first second : Ppu) : Prop where
  windowLine_eq : first.windowLine = second.windowLine
  frame_eq : first.frame = second.frame

namespace SameScreen

variable {memory : Memory} {first second third : Ppu}

protected theorem refl (ppu : Ppu) : SameScreen ppu ppu := ⟨rfl, rfl⟩

protected theorem trans (h : SameScreen first second) (h' : SameScreen second third) :
    SameScreen first third :=
  ⟨h.windowLine_eq.trans h'.windowLine_eq, h.frame_eq.trans h'.frame_eq⟩

theorem enter (h : SameScreen first second) (line : UInt8) :
    SameScreen (first.enter memory line) (second.enter memory line) := by
  have hwindow :
      (Run.startLine first line).windowLine = (Run.startLine second line).windowLine := by
    rw [windowLine_startLine, windowLine_startLine, h.windowLine_eq]
  have hframe : (Run.startLine first line).frame = (Run.startLine second line).frame := by
    rw [frame_startLine, frame_startLine, h.frame_eq]
  unfold Ppu.enter
  -- a visible line draws its row and counts, any other one does neither
  rcases Nat.lt_or_ge line.toNat Frame.height with hvisible | hbelow
  · constructor
    · rw [windowLine_drawRow _ _ hvisible, windowLine_drawRow _ _ hvisible, hwindow]
    · rw [frame_drawRow _ _ hvisible, frame_drawRow _ _ hvisible, hwindow, hframe]
  · rw [drawRow_of_le _ _ hbelow, drawRow_of_le _ _ hbelow]
    exact ⟨hwindow, hframe⟩

theorem foldl_enter (h : SameScreen first second) (lines : List UInt8) :
    SameScreen (lines.foldl (Ppu.enter memory) first) (lines.foldl (Ppu.enter memory) second) := by
  induction lines generalizing first second with
  | nil => exact h
  | cons line rest ih => exact ih (h.enter line)

end SameScreen

namespace Run

variable {memory : Memory}

theorem sameScreen_setDot (run : Run) (dot : Nat) : SameScreen run.ppu (run.setDot dot).ppu :=
  ⟨rfl, rfl⟩

theorem sameScreen_updateMode (run : Run) : SameScreen run.ppu run.updateMode.value.ppu :=
  ⟨(windowLine_updateMode run).symm, (frame_updateMode run).symm⟩

/-- An advance changes the screen as the lines it enters do. -/
theorem sameScreen_advance {run : Run} (h : run.memory.SamePicture memory) (dots : Nat) :
    SameScreen ((enteredLines (run.advance dots).journal).foldl (enter memory) run.ppu)
      (run.advance dots).value.ppu := by
  rcases Nat.lt_or_ge (run.ppu.dot + dots) dotsPerLine with hlt | hge
  · -- within a line nothing is entered
    rw [enteredLines_advance_of_lt run hlt, List.foldl_nil, advance_of_lt run hlt]
    generalize run.ppu.dot + dots = dot
    exact (sameScreen_setDot run dot).trans (sameScreen_updateMode _)
  · -- a line is entered, and its row depends on the picture in memory alone
    rw [enteredLines_advance_of_le run hge, List.foldl_cons, List.foldl_nil,
      advance_of_le run hge, Logged.value_bind]
    generalize run.ppu.dot + dots - dotsPerLine = dot
    have hsame : (run.setDot dot).nextLine.value.memory.SamePicture memory :=
      (samePicture_of_sameOutside (sameOutside_nextLine (run.setDot dot))).trans h
    have hnext : (run.setDot dot).nextLine.value.ppu =
        (run.setDot dot).ppu.enter memory (lineAfter run.memory.line) :=
      (ppu_nextLine _).trans (drawRow_congr _ hsame _)
    refine ((sameScreen_setDot run dot).enter _).trans ?_
    rw [← hnext]
    exact sameScreen_updateMode _

/-- So does a walk. -/
theorem sameScreen_walk {run : Run} (h : run.memory.SamePicture memory) (dots : Nat) :
    SameScreen ((enteredLines (walk dots run).journal).foldl (enter memory) run.ppu)
      (walk dots run).value.ppu := by
  induction dots, run using walk.induct with
  | case1 dots run hwalk chunk ih =>
      have hsame : (run.advance chunk).value.memory.SamePicture memory :=
        (samePicture_of_sameOutside (sameOutside_advance run chunk)).trans h
      rw [walk_of_pos run hwalk.2 hwalk.1, Logged.journal_bind, enteredLines_append,
        List.foldl_append, Logged.value_bind]
      exact ((sameScreen_advance h chunk).foldl_enter _).trans (ih _ hsame)
  | case2 dots run hwalk =>
      rw [walk, dif_neg hwalk]
      exact .refl run.ppu

end Run

/-! ## Runs -/

section

variable {ppu : Ppu} {memory : Memory}
  (henabled : LcdControl.lcdEnabled memory.lcdControl = true) (hon : ppu.lcdOn = true)
include henabled hon

theorem enteredLines_run (hdot : ppu.dot < 456) (hline : memory.line ≤ 153) (cycles : Nat) :
    enteredLines (ppu.run memory cycles).journal =
      linesBetween (position ppu memory) (position ppu memory + cycles) := by
  have hframe : Run.InFrame ⟨ppu, memory, false⟩ := ⟨hdot, hline⟩
  rw [run_of_enabled henabled, switchOn_of_lcdOn hon, pure_bind]
  exact hframe.enteredLines_walk cycles

theorem sameScreen_run {other : Memory} (h : memory.SamePicture other) (cycles : Nat) :
    SameScreen ((enteredLines (ppu.run memory cycles).journal).foldl (enter other) ppu)
      (ppu.run memory cycles).value.ppu := by
  have hstart : (⟨ppu, memory, false⟩ : Run).memory.SamePicture other := h
  rw [run_of_enabled henabled, switchOn_of_lcdOn hon, pure_bind]
  exact Run.sameScreen_walk hstart cycles

/-- Runs one after the other enter the lines between the first place and the last. -/
theorem enteredLines_runs (hdot : ppu.dot < 456) (hline : memory.line ≤ 153) (counts : List Nat) :
    enteredLines (runs ppu memory counts).journal =
      linesBetween (position ppu memory) (position ppu memory + counts.sum) := by
  -- by induction on the runs: each goes on from the place that the one before has come to
  induction counts generalizing ppu memory with
  | nil =>
      rw [List.sum_nil, Nat.add_zero, linesBetween_self]
      rfl
  | cons cycles rest ih =>
      have hframe := inFrame_run henabled hon hdot hline cycles
      have hrest := ih (enabled_run henabled cycles) (lcdOn_run henabled cycles)
        hframe.dot_lt hframe.line_le
      rw [position_run henabled hon hdot hline, linesBetween_mod] at hrest
      calc enteredLines (runs ppu memory (cycles :: rest)).journal
          = enteredLines (ppu.run memory cycles).journal ++
              enteredLines (runs (ppu.run memory cycles).value.ppu
                (ppu.run memory cycles).value.memory rest).journal := by
            rw [runs, Logged.journal_bind, Logged.journal_map, enteredLines_append]
        _ = linesBetween (position ppu memory) (position ppu memory + cycles + rest.sum) := by
            rw [enteredLines_run henabled hon hdot hline, hrest,
              linesBetween_append (Nat.le_add_right _ _) (Nat.le_add_right _ _)]
        _ = linesBetween (position ppu memory) (position ppu memory + (cycles :: rest).sum) := by
            rw [List.sum_cons, Nat.add_assoc]

/-- After runs one after the other, the screen is the one made by entering the lines that they
report. -/
theorem sameScreen_runs {other : Memory} (h : memory.SamePicture other) (counts : List Nat) :
    SameScreen ((enteredLines (runs ppu memory counts).journal).foldl (enter other) ppu)
      (((runs ppu memory counts).value.map (·.ppu)).getLastD ppu) := by
  induction counts generalizing ppu memory with
  | nil => exact .refl ppu
  | cons cycles rest ih =>
      have hsame := (samePicture_of_sameOutside (sameOutside_run ppu memory cycles)).trans h
      have hnext : (ppu.run memory cycles).value.ppu.lcdOn = true := lcdOn_run henabled cycles
      have hrest := ih (enabled_run henabled cycles) hnext hsame
      rw [runs, Logged.journal_bind, Logged.journal_map, enteredLines_append, List.foldl_append,
        Logged.value_bind, Logged.value_map, List.map_cons, List.getLastD_cons]
      exact ((sameScreen_run henabled hon h cycles).foldl_enter _).trans hrest

end

end Ppu

end GameBoy
