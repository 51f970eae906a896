import GameBoy.Proofs.Video.FirstFrame
import GameBoy.Proofs.Video.Lines

/-!
# The frames after a rollover

A run that ends on the first line, having got there from the last one, has drawn that line and
begun to count the rows of the window: `shows_of_frameDone`.  Neither the mode nor what was on the
screen before matters.  From there on every frame is the whole picture that memory describes, and
each of its rows is drawn once, the topmost one at the end: `steady_frame`.
-/

namespace GameBoy.Ppu

/-! ## After a rollover -/

namespace Run

variable {memory : Memory} {run : Run}

/-- Once a frame has ended, a run on the first line has drawn it. -/
structure Rolled (memory : Memory) (run : Run) : Prop where
  samePicture : run.memory.SamePicture memory
  aligned : run.frameDone = true → run.Aligned
  drawn : run.frameDone = true → run.memory.line = 0 → Drawn memory 0 run

theorem Rolled.advance (h : Rolled memory run) {dots : Nat}
    (hdots : run.ppu.dot + dots ≤ dotsPerLine) : Rolled memory (run.advance dots).value := by
  have hsame := (samePicture_of_sameOutside (sameOutside_advance run dots)).trans h.samePicture
  refine ⟨hsame, fun _ => aligned_advance hdots, ?_⟩
  rcases Nat.lt_or_ge (run.ppu.dot + dots) dotsPerLine with hlt | hge
  · -- within a line neither the frame nor the line changes
    intro hdone hline
    rw [advance_of_lt run hlt, frameDone_updateMode, frameDone_setDot] at hdone
    rw [line_advance_of_lt run hlt] at hline
    exact (h.drawn hdone hline).advance_of_lt hlt
  · -- a line is entered, and if it is the topmost one its row is drawn
    intro _ hline
    rw [line_advance_of_le run hge] at hline
    rw [advance_of_le run hge, Logged.value_bind]
    generalize run.ppu.dot + dots - dotsPerLine = dot
    have hstart : (run.setDot dot).memory.SamePicture memory := h.samePicture
    exact (drawn_nextLine hstart hline).updateMode

theorem Rolled.walk (h : Rolled memory run) (dots : Nat) :
    Rolled memory (Run.walk dots run).value :=
  walk_induction (fun _ _ hdots hrolled => hrolled.advance hdots) dots run h

end Run

/-- A run that has reported a frame and stopped on the first line shows that line. -/
theorem shows_of_frameDone {ppu : Ppu} {memory : Memory} {cycles : Nat}
    (henabled : LcdControl.lcdEnabled memory.lcdControl = true)
    (hdone : (ppu.run memory cycles).value.frameDone = true)
    (hline : (ppu.run memory cycles).value.memory.line = 0) :
    Shows memory 0 (ppu.run memory cycles).value.ppu (ppu.run memory cycles).value.memory := by
  have hstart : Run.Rolled memory (ppu.switchOn memory).value := by
    -- no frame has been reported, so nothing is claimed yet
    have hquiet : (ppu.switchOn memory).value.frameDone ≠ true := by
      unfold switchOn
      split <;> exact Bool.false_ne_true
    exact ⟨samePicture_of_sameOutside (sameOutside_switchOn ppu memory),
      fun hdone => absurd hdone hquiet, fun hdone => absurd hdone hquiet⟩
  have hrolled := hstart.walk cycles
  have hon : (ppu.run memory cycles).value.ppu.lcdOn = true := lcdOn_run henabled cycles
  rw [← Logged.value_bind, ← run_of_enabled henabled] at hrolled
  have haligned := hrolled.aligned hdone
  refine shows_of_run hon haligned ⟨haligned.dot_lt, ?_⟩ (hrolled.drawn hdone hline)
  rw [hline]
  decide

/-! ## The next frame -/

theorem exists_runs_concat (ppu : Ppu) (memory : Memory) (front : List Nat) (cycles : Nat) :
    ∃ last, (runs ppu memory (front ++ [cycles])).value =
      (runs ppu memory front).value ++ [last] := by
  induction front generalizing ppu memory with
  | nil => exact ⟨_, rfl⟩
  | cons first rest ih =>
      obtain ⟨last, hlast⟩ :=
        ih (ppu.run memory first).value.ppu (ppu.run memory first).value.memory
      refine ⟨last, ?_⟩
      rw [List.cons_append, runs, Logged.value_bind, Logged.value_map, hlast]
      rfl

/-- The results before the last one are those of the counts before the last one. -/
theorem exists_front {ppu : Ppu} {memory : Memory} {counts : List Nat} {earlier : List Run}
    {last : Run} (hresults : (runs ppu memory counts).value = earlier ++ [last]) :
    ∃ front cycles, counts = front ++ [cycles] ∧ (runs ppu memory front).value = earlier := by
  rcases List.eq_nil_or_concat counts with rfl | ⟨front, cycles, rfl⟩
  · exact absurd hresults (List.append_ne_nil_of_right_ne_nil earlier (List.cons_ne_nil _ _)).symm
  · obtain ⟨other, hother⟩ := exists_runs_concat ppu memory front cycles
    rw [List.concat_eq_append, hother] at hresults
    exact ⟨front, cycles, List.concat_eq_append, (List.append_inj' hresults rfl).1⟩

/-- If only the last run reports a frame, that is the frame reported. -/
theorem finishedFrames_eq_singleton {ppu : Ppu} {memory : Memory} {counts : List Nat}
    {earlier : List Run} {last : Run}
    (hresults : (runs ppu memory counts).value = earlier ++ [last])
    (hquiet : ∀ run ∈ earlier, run.frameDone = false) (hlast : last.frameDone = true) :
    finishedFrames ppu memory counts = [last.ppu.frame] := by
  have hnone : earlier.filter (·.frameDone) = [] := by
    rw [List.filter_eq_nil_iff]
    intro run hrun
    simp [hquiet run hrun]
  rw [finishedFrames, hresults, List.filter_append, hnone, List.nil_append]
  simp [hlast]

theorem pictures_eq_nil_iff (memory : Memory) (first n : Nat) :
    pictures memory first n = [] ↔ n = 0 := by
  cases n with
  | zero => exact iff_of_true rfl rfl
  | succ n => exact iff_of_false (List.cons_ne_nil _ _) (Nat.succ_ne_zero n)

theorem finishedFrames_eq_nil_iff (ppu : Ppu) (memory : Memory) (counts : List Nat) :
    finishedFrames ppu memory counts = [] ↔
      ∀ run ∈ (runs ppu memory counts).value, run.frameDone = false := by
  rw [finishedFrames, List.map_eq_nil_iff, List.filter_eq_nil_iff]
  simp only [Bool.not_eq_true]

section

variable {memory current : Memory} {ppu : Ppu} {counts : List Nat}
  (henabled : LcdControl.lcdEnabled memory.lcdControl = true)
  (h : Shows memory 0 ppu current) (hcounts : ∀ cycles ∈ counts, cycles ≤ 456)
include henabled h hcounts

/-- No frame is reported before the cycles of a frame have passed. -/
theorem Shows.quiet_iff :
    (∀ run ∈ (runs ppu current counts).value, run.frameDone = false) ↔
      position ppu current + counts.sum < 70224 := by
  rw [← finishedFrames_eq_nil_iff, h.finishedFrames_eq henabled (Nat.zero_le 1) hcounts,
    pictures_eq_nil_iff]
  omega

/-- The first frame to be reported is reported within its topmost line, and it is the whole
picture. -/
theorem Shows.frame_eq {earlier : List Run} {last : Run}
    (hresults : (runs ppu current counts).value = earlier ++ [last])
    (hquiet : ∀ run ∈ earlier, run.frameDone = false) (hlast : last.frameDone = true) :
    (position ppu current + counts.sum) / 456 = 154 ∧ last.ppu.frame = memory.picture 0 := by
  have hframes := finishedFrames_eq_singleton hresults hquiet hlast
  obtain ⟨front, cycles, rfl, rfl⟩ := exists_front hresults
  have hfront : ∀ other ∈ front, other ≤ 456 := fun other hother =>
    hcounts other (List.mem_append_left _ hother)
  have hcycles : cycles ≤ 456 := hcounts cycles (by simp)
  -- the frame is not over before the last run, and is after it
  have hbefore : position ppu current + front.sum < 70224 :=
    (h.quiet_iff henabled hfront).mp hquiet
  have hafter : 70224 ≤ position ppu current + (front ++ [cycles]).sum := by
    apply Nat.le_of_not_lt
    intro hlt
    have hnone := (h.quiet_iff henabled hcounts).mpr hlt last (by simp [hresults])
    exact absurd hlast (by simp [hnone])
  have hsum : (front ++ [cycles]).sum = front.sum + cycles := by simp
  rw [hsum] at hafter
  -- no run is longer than a line, so there is one frame and no second
  have hcount : (position ppu current + (front.sum + cycles)) / 70224 = 1 := by omega
  rw [h.finishedFrames_eq henabled (Nat.zero_le 1) hcounts, hsum, hcount] at hframes
  rw [hsum]
  exact ⟨by omega, (List.cons.inj hframes).1.symm⟩

end

/-- From the first line to the next first line all others are entered in between. -/
theorem linesBetween_of_frame {start stop : Nat} (hstart : start < 456) (hstop : stop / 456 = 154) :
    linesBetween start stop = (List.range' 1 154).map fun n => UInt8.ofNat (n % 154) := by
  rw [linesBetween, Nat.div_eq_of_lt hstart, hstop]

/-- **Every frame after a rollover.**  A run has reported a frame and stopped on the first line,
and nobody else writes to memory.  Under runs of a line's length at most, the next frame is
reported once its cycles have passed.  At the run that reports it every row of the screen is the
one that memory describes, with the window counted from its top, and since the rollover the
rows 1 to 143 and then row 0 have been drawn, once each, and nothing else. -/
theorem steady_frame {ppu : Ppu} {memory : Memory} {cycles : Nat}
    (henabled : LcdControl.lcdEnabled memory.lcdControl = true)
    (hdone : (ppu.run memory cycles).value.frameDone = true)
    (hline : (ppu.run memory cycles).value.memory.line = 0)
    {counts : List Nat} (hcounts : ∀ cycles ∈ counts, cycles ≤ 456) :
    let start := (ppu.run memory cycles).value
    let results := (runs start.ppu start.memory counts).value
    let lines := enteredLines (runs start.ppu start.memory counts).journal
    ((∃ run ∈ results, run.frameDone = true) ↔ 70224 ≤ start.ppu.dot + counts.sum) ∧
    ∀ earlier last, results = earlier ++ [last] → (∀ run ∈ earlier, run.frameDone = false) →
      last.frameDone = true →
      (∀ (other : Ppu) (line : Nat) (_ : line < Frame.height),
        other.windowLine = UInt8.ofNat (line - (memory.read Address.windowY).toNat) →
        last.ppu.frame[line] = (other.drawRow memory line).frame[line]) ∧
      (lines.map (·.toNat)).filter (· < Frame.height) = List.range' 1 143 ++ [0] ∧
      SameScreen (lines.foldl (enter memory) start.ppu) last.ppu := by
  intro start results lines
  have hshows : Shows memory 0 start.ppu start.memory := shows_of_frameDone henabled hdone hline
  have hposition : position start.ppu start.memory = start.ppu.dot := by
    have hzero : start.memory.line = 0 := hline
    rw [position, hzero]
    exact Nat.zero_add _
  have hquiet := hshows.quiet_iff henabled hcounts
  rw [hposition] at hquiet
  refine ⟨?_, fun earlier last hresults hearlier hlast => ?_⟩
  · rw [← Nat.not_lt, ← hquiet]
    simp [results]
  obtain ⟨hstop, hframe⟩ := hshows.frame_eq henabled hcounts hresults hearlier hlast
  refine ⟨fun other line hline hwindow => ?_, ?_, ?_⟩
  · rw [hframe, memory.getElem_picture_eq 0 hline, Nat.max_eq_right (Nat.zero_le _),
      frame_drawRow other memory hline, Vector.getElem_set_self, hwindow]
    rfl
  · have hlines := enteredLines_runs (hshows.enabled henabled) hshows.lcdOn
      hshows.inFrame.dot_lt hshows.inFrame.line_le counts
    rw [hposition] at hlines hstop
    rw [show lines = _ from hlines, linesBetween_of_frame hshows.inFrame.dot_lt hstop]
    -- the lines from 1 to 153 and then line 0, of which the visible ones are kept
    decide +kernel
  · have hscreen := sameScreen_runs (hshows.enabled henabled) hshows.lcdOn
      hshows.drawn.samePicture counts
    rw [show (runs start.ppu start.memory counts).value = _ from hresults,
      List.map_append] at hscreen
    simpa using hscreen

theorem line_windowMemory : windowMemory.line = 0 := by
  rw [Memory.line, read_windowMemory]
  decide

theorem position_windowMemory : position powerOn windowMemory = 0 := by
  rw [position, line_windowMemory]
  rfl

theorem eq_zero_of_position {ppu : Ppu} {memory : Memory} (h : position ppu memory = 0) :
    memory.line = 0 ∧ ppu.dot = 0 := by
  unfold position at h
  refine ⟨?_, by omega⟩
  rw [← UInt8.toNat_inj]
  show memory.line.toNat = 0
  omega

/-- A frame of a single run, and the next one of 154 runs. -/
theorem steady_frame_windowMemory :
    let start := (powerOn.run windowMemory 70224).value
    let counts := List.replicate 153 456 ++ [456]
    (LcdControl.lcdEnabled windowMemory.lcdControl = true ∧ start.frameDone = true ∧
      start.memory.line = 0 ∧ ∀ cycles ∈ counts, cycles ≤ 456) ∧
    ∃ earlier last, (runs start.ppu start.memory counts).value = earlier ++ [last] ∧
      (∀ run ∈ earlier, run.frameDone = false) ∧ last.frameDone = true ∧
      last.ppu.frame[1] = ({ powerOn with windowLine := 1 }.drawRow windowMemory 1).frame[1] := by
  have henabled : LcdControl.lcdEnabled windowMemory.lcdControl = true := by
    rw [lcdControl_windowMemory]
    rfl
  have hline : windowMemory.line ≤ 153 := by
    rw [line_windowMemory]
    decide
  have hstart : powerOn.dot < 456 := by decide
  have hdone := frameDone_run henabled rfl hstart hline 70224
  have hposition := position_run henabled rfl hstart hline 70224
  rw [position_windowMemory] at hdone hposition
  obtain ⟨hfirst, hdot⟩ := eq_zero_of_position hposition
  have hfront : ∀ cycles ∈ List.replicate 153 456, cycles ≤ 456 := by simp
  have hcounts : ∀ cycles ∈ List.replicate 153 456 ++ [456], cycles ≤ 456 := by simp
  -- the first 153 runs fall short of a frame, and the last one completes it
  obtain ⟨hquiet, -⟩ := steady_frame henabled hdone hfirst hfront
  obtain ⟨hreported, hframe⟩ := steady_frame henabled hdone hfirst hcounts
  refine ⟨⟨henabled, hdone, hfirst, hcounts⟩, ?_⟩
  generalize (powerOn.run windowMemory 70224).value = start at hdot hquiet hreported hframe ⊢
  obtain ⟨last, hlast⟩ := exists_runs_concat start.ppu start.memory (List.replicate 153 456) 456
  have hshort : start.ppu.dot + (List.replicate 153 456).sum < 70224 := by
    rw [hdot, List.sum_replicate_nat]
    decide
  have hlong : 70224 ≤ start.ppu.dot + (List.replicate 153 456 ++ [456]).sum := by
    rw [hdot, List.sum_append, List.sum_replicate_nat]
    decide
  have hearlier : ∀ run ∈ (runs start.ppu start.memory (List.replicate 153 456)).value,
      run.frameDone = false := by
    intro run hrun
    rw [Bool.eq_false_iff]
    intro hdone
    exact absurd (hquiet.mp ⟨run, hrun, hdone⟩) (Nat.not_le_of_lt hshort)
  have hend : last.frameDone = true := by
    obtain ⟨run, hrun, hdone⟩ := hreported.mpr hlong
    rw [hlast] at hrun
    rcases List.mem_append.mp hrun with hold | hnew
    · exact absurd hdone (Bool.eq_false_iff.mp (hearlier run hold))
    · rwa [← List.mem_singleton.mp hnew]
  obtain ⟨hrows, -⟩ := hframe _ last hlast hearlier hend
  have hwindow : (1 : UInt8) = UInt8.ofNat (1 - (windowMemory.read Address.windowY).toNat) := by
    rw [read_windowMemory]
    decide
  exact ⟨_, last, hlast, hearlier, hend,
    hrows { powerOn with windowLine := 1 } 1 (by decide) hwindow⟩

end GameBoy.Ppu
