import GameBoy.Proofs.Video.Rows

/-!
# The first frame and the later ones

A frame is complete when the first line is entered again.  At power-on, and when the display is
switched on, the unit is put on the first line without entering it, so that line is not drawn and
its row of the window is not counted before the first frame is under way.

`finishedFrames_eq` gives the frames that are reported under any schedule of short runs, if nobody
else writes to memory: the first is the picture with the rows of the window counted from line 1,
and all others are the picture with the rows counted from line 0.  `later_eq_first_iff` says when
this makes a difference: only for a window that begins on line 0, and then whenever some line
looks different one row of the window further up.
-/

namespace GameBoy.Ppu

open Memory (SameOutside SamePicture)

namespace Run

variable {memory : Memory} {first : Nat} {run : Run}

/-! ## One dot -/

theorem frame_advance_of_lt (run : Run) {dots : Nat} (h : run.ppu.dot + dots < dotsPerLine) :
    (run.advance dots).value.ppu.frame = run.ppu.frame := by
  rw [advance_of_lt run h, frame_updateMode]
  rfl

theorem Drawn.setDot (h : Drawn memory first run) (dot : Nat) :
    Drawn memory first (run.setDot dot) :=
  ⟨h.samePicture, h.windowLine_eq, h.row_eq⟩

/-- Within a line nothing is drawn. -/
theorem Drawn.advance_of_lt (h : Drawn memory first run) {dots : Nat}
    (hlt : run.ppu.dot + dots < dotsPerLine) : Drawn memory first (run.advance dots).value := by
  rw [Run.advance_of_lt run hlt]
  exact (h.setDot _).updateMode

theorem Drawn.advance_of_place_lt (h : Drawn memory first run) (hframe : run.InFrame)
    (hfirst : first ≤ 1) (hplace : position run.ppu run.memory + 1 < 70224) :
    Drawn memory first (run.advance 1).value := by
  rcases Nat.lt_or_ge (run.ppu.dot + 1) dotsPerLine with hlt | hge
  · -- within a line nothing is drawn
    exact h.advance_of_lt hlt
  · -- a line is entered, which is not the first one while the frame goes on
    have hend : run.ppu.dot + 1 = 456 := Nat.le_antisymm hframe.dot_lt hge
    have hline : run.memory.line < 153 := by
      rw [UInt8.lt_iff_toNat_lt]
      show run.memory.line.toNat < 153
      unfold position at hplace
      omega
    rw [advance_of_le run hge, Logged.value_bind]
    -- where in the line it starts does not matter
    generalize run.ppu.dot + 1 - dotsPerLine = dot
    exact ((h.setDot dot).nextLine hline (Nat.le_add_left_of_le hfirst)).updateMode

/-- The last dot of a frame completes the picture. -/
theorem Drawn.advance_of_place_eq (h : Drawn memory first run) (hframe : run.InFrame)
    (hfirst : first ≤ 1) (hplace : position run.ppu run.memory + 1 = 70224) :
    Drawn memory 0 (run.advance 1).value ∧
      (run.advance 1).value.ppu.frame = memory.picture first := by
  have hdot := hframe.dot_lt
  have hle : run.memory.line.toNat ≤ 153 := UInt8.le_iff_toNat_le.mp hframe.line_le
  unfold position at hplace
  have hge : dotsPerLine ≤ run.ppu.dot + 1 := by
    show 456 ≤ run.ppu.dot + 1
    omega
  -- the last dot of a frame is on line 153
  have hline : run.memory.line = 153 := by
    rw [← UInt8.toNat_inj]
    show run.memory.line.toNat = 153
    omega
  rw [advance_of_le run hge, Logged.value_bind, frame_updateMode]
  generalize run.ppu.dot + 1 - dotsPerLine = dot
  obtain ⟨hdrawn, hpicture⟩ := (h.setDot dot).rollover hline hfirst
  exact ⟨hdrawn.updateMode, hpicture⟩

/-! ## Short walks -/

/-- A walk of a line's length at most gets around the frame once at most. -/
theorem Drawn.walk (h : Drawn memory first run) (haligned : run.Aligned) (hframe : run.InFrame)
    (hfirst : first ≤ 1) {dots : Nat} (hdots : dots ≤ 456) :
    if 70224 ≤ position run.ppu run.memory + dots then
      Drawn memory 0 (walk dots run).value ∧
        (walk dots run).value.ppu.frame = memory.picture first
    else Drawn memory first (walk dots run).value := by
  have hstart := hframe.position_lt
  induction dots with
  | zero =>
      rw [Nat.add_zero, if_neg (Nat.not_le_of_lt hstart), walk_zero]
      exact h
  | succ dots ih =>
      have hbefore := ih (Nat.le_of_succ_le hdots)
      obtain ⟨hmiddle, hposition, -⟩ := hframe.walk dots
      rw [haligned.value_walk_succ]
      generalize (Run.walk dots run).value = middle at hbefore hmiddle hposition
      rcases Nat.lt_trichotomy (position run.ppu run.memory + dots + 1) 70224 with
        hlt | heq | hgt
      · -- still in the frame
        rw [if_neg (by omega)] at hbefore
        rw [if_neg (by omega)]
        exact hbefore.advance_of_place_lt hmiddle hfirst (by omega)
      · -- the last dot of the frame
        rw [if_neg (by omega)] at hbefore
        rw [if_pos (by omega)]
        exact hbefore.advance_of_place_eq hmiddle hfirst (by omega)
      · -- the next frame has begun, and the walk ends before its first line does
        rw [if_pos (by omega)] at hbefore
        rw [if_pos (by omega)]
        have hwithin : middle.ppu.dot + 1 < dotsPerLine := by
          show middle.ppu.dot + 1 < 456
          unfold position at hposition hstart hgt
          omega
        rw [frame_advance_of_lt middle hwithin]
        exact ⟨hbefore.1.advance_of_lt hwithin, hbefore.2⟩

end Run

/-! ## Runs -/

/-- A unit between two runs, with the display on and the lines from `first` on drawn. -/
structure Shows (memory : Memory) (first : Nat) (ppu : Ppu) (current : Memory) : Prop where
  lcdOn : ppu.lcdOn = true
  aligned : Run.Aligned ⟨ppu, current, false⟩
  inFrame : Run.InFrame ⟨ppu, current, false⟩
  drawn : Run.Drawn memory first ⟨ppu, current, false⟩

/-- Whether a frame has ended makes no difference to the state a run leaves. -/
theorem shows_of_run {memory : Memory} {first : Nat} {run : Run} (hon : run.ppu.lcdOn = true)
    (haligned : run.Aligned) (hframe : run.InFrame) (hdrawn : Run.Drawn memory first run) :
    Shows memory first run.ppu run.memory where
  lcdOn := hon
  aligned := ⟨haligned.dot_lt, haligned.mode_eq⟩
  inFrame := ⟨hframe.dot_lt, hframe.line_le⟩
  drawn := ⟨hdrawn.samePicture, hdrawn.windowLine_eq, hdrawn.row_eq⟩

section

variable {memory current : Memory} {first cycles : Nat} {ppu : Ppu}
  (henabled : LcdControl.lcdEnabled memory.lcdControl = true)
  (h : Shows memory first ppu current)
include henabled h

theorem Shows.enabled : LcdControl.lcdEnabled current.lcdControl = true := by
  rw [h.drawn.samePicture.lcdControl]
  exact henabled

theorem Shows.run_eq (cycles : Nat) :
    ppu.run current cycles = Run.walk cycles ⟨ppu, current, false⟩ := by
  rw [run_of_enabled (h.enabled henabled), switchOn_of_lcdOn h.lcdOn, pure_bind]

theorem Shows.position_run (cycles : Nat) :
    position (ppu.run current cycles).value.ppu (ppu.run current cycles).value.memory =
      (position ppu current + cycles) % 70224 :=
  Ppu.position_run (h.enabled henabled) h.lcdOn h.inFrame.dot_lt h.inFrame.line_le cycles

theorem Shows.frameDone_run (cycles : Nat) :
    (ppu.run current cycles).value.frameDone =
      decide (70224 ≤ position ppu current + cycles) :=
  Ppu.frameDone_run (h.enabled henabled) h.lcdOn h.inFrame.dot_lt h.inFrame.line_le cycles

/-- The unit stays in this state, whatever lines are then drawn. -/
theorem Shows.of_drawn {next : Nat}
    (hdrawn : Run.Drawn memory next (ppu.run current cycles).value) :
    Shows memory next (ppu.run current cycles).value.ppu
      (ppu.run current cycles).value.memory := by
  have haligned := Run.aligned_walk h.aligned cycles
  have hframe := (h.inFrame.walk cycles).inFrame
  rw [h.run_eq henabled] at hdrawn ⊢
  refine shows_of_run ?_ haligned hframe hdrawn
  rw [Run.lcdOn_walk]
  exact h.lcdOn

/-- A short run that reports no frame goes on with the frame. -/
theorem Shows.run_of_lt (hfirst : first ≤ 1) (hcycles : cycles ≤ 456)
    (hlt : position ppu current + cycles < 70224) :
    Shows memory first (ppu.run current cycles).value.ppu
      (ppu.run current cycles).value.memory := by
  have hwalk := h.drawn.walk h.aligned h.inFrame hfirst hcycles
  rw [if_neg (Nat.not_le_of_lt hlt), ← h.run_eq henabled] at hwalk
  exact h.of_drawn henabled hwalk

/-- A short run that reports a frame leaves its picture, and begins the next frame. -/
theorem Shows.run_of_le (hfirst : first ≤ 1) (hcycles : cycles ≤ 456)
    (hle : 70224 ≤ position ppu current + cycles) :
    Shows memory 0 (ppu.run current cycles).value.ppu (ppu.run current cycles).value.memory ∧
      (ppu.run current cycles).value.ppu.frame = memory.picture first := by
  have hwalk := h.drawn.walk h.aligned h.inFrame hfirst hcycles
  rw [if_pos hle, ← h.run_eq henabled] at hwalk
  exact ⟨h.of_drawn henabled hwalk.1, hwalk.2⟩

end

/-- The frames at the runs that report one, in order. -/
def finishedFrames (ppu : Ppu) (memory : Memory) (counts : List Nat) : List Frame :=
  ((runs ppu memory counts).value.filter (·.frameDone)).map (·.ppu.frame)

theorem finishedFrames_cons (ppu : Ppu) (memory : Memory) (cycles : Nat) (rest : List Nat) :
    finishedFrames ppu memory (cycles :: rest) =
      (if (ppu.run memory cycles).value.frameDone then [(ppu.run memory cycles).value.ppu.frame]
        else []) ++
      finishedFrames (ppu.run memory cycles).value.ppu (ppu.run memory cycles).value.memory
        rest := by
  unfold finishedFrames
  rw [runs, Logged.value_bind, Logged.value_map, List.filter_cons]
  split <;> rfl

/-- A number of pictures, of which the first has its window rows counted from line `first` on and
the others from the first line on. -/
def pictures (memory : Memory) (first : Nat) : Nat → List Frame
  | 0 => []
  | n + 1 => memory.picture first :: List.replicate n (memory.picture 0)

theorem pictures_zero (memory : Memory) (n : Nat) :
    pictures memory 0 n = List.replicate n (memory.picture 0) := by
  cases n <;> rfl

theorem Shows.finishedFrames_eq {memory current : Memory} {first : Nat} {ppu : Ppu}
    (henabled : LcdControl.lcdEnabled memory.lcdControl = true)
    (h : Shows memory first ppu current) (hfirst : first ≤ 1) {counts : List Nat}
    (hcounts : ∀ cycles ∈ counts, cycles ≤ 456) :
    finishedFrames ppu current counts =
      pictures memory first ((position ppu current + counts.sum) / 70224) := by
  -- by induction on the runs, each of which completes one frame at most
  induction counts generalizing ppu current first with
  | nil =>
      have hstart : position ppu current < 70224 := h.inFrame.position_lt
      rw [List.sum_nil, Nat.add_zero, Nat.div_eq_of_lt hstart]
      rfl
  | cons cycles rest ih =>
      have hcycles := hcounts cycles List.mem_cons_self
      have hrest := fun other hother => hcounts other (List.mem_cons_of_mem cycles hother)
      have hposition := h.position_run henabled cycles
      have hstart : position ppu current < 70224 := h.inFrame.position_lt
      rw [finishedFrames_cons, h.frameDone_run henabled, List.sum_cons]
      rcases Nat.lt_or_ge (position ppu current + cycles) 70224 with hlt | hle
      · -- the frame goes on
        have hnext := ih (h.run_of_lt henabled hfirst hcycles hlt) hfirst hrest
        rw [hposition, Nat.mod_eq_of_lt hlt, Nat.add_assoc] at hnext
        rw [decide_eq_false (Nat.not_le_of_lt hlt), if_neg Bool.false_ne_true, List.nil_append,
          hnext]
      · -- the frame is complete, and from here on all frames are later ones
        obtain ⟨hnext, hpicture⟩ := h.run_of_le henabled hfirst hcycles hle
        have hcount : (position ppu current + (cycles + rest.sum)) / 70224 =
            ((position ppu current + cycles) % 70224 + rest.sum) / 70224 + 1 := by
          omega
        rw [decide_eq_true hle, if_pos rfl, hpicture,
          ih hnext (Nat.zero_le 1) hrest, hposition, hcount, pictures_zero]
        rfl

/-! ## The start of the first frame -/

/-- The first frame has not begun: the unit is new, or the display has been dark until now. -/
def Starting (ppu : Ppu) (memory : Memory) : Prop :=
  (ppu = powerOn ∧ memory.line = 0) ∨ ppu.lcdOn = false

section

variable {ppu : Ppu} {memory : Memory}

/-- Once the display is on, the unit is on the first line, and has not drawn it. -/
theorem start_switchOn (h : Starting ppu memory) :
    (ppu.switchOn memory).value.memory.line = 0 ∧ (ppu.switchOn memory).value.ppu.dot = 0 ∧
      (ppu.switchOn memory).value.ppu.mode = .objectScan ∧
      (ppu.switchOn memory).value.ppu.windowLine = 0 := by
  -- the unit starts out lit on line 0, or switching it on puts it there
  rcases h with ⟨rfl, hline⟩ | hdark
  · rw [switchOn_of_lcdOn rfl]
    exact ⟨hline, rfl, rfl, rfl⟩
  · have hline := line_switchOn_of_dark hdark memory
    rw [value_switchOn_of_dark hdark] at hline ⊢
    exact ⟨hline, rfl, rfl, rfl⟩

theorem position_switchOn (h : Starting ppu memory) :
    position (ppu.switchOn memory).value.ppu (ppu.switchOn memory).value.memory = 0 := by
  obtain ⟨hline, hdot, -, -⟩ := start_switchOn h
  rw [position, hline, hdot]
  rfl

/-- All lines from line 1 on have been drawn, as there are none yet. -/
theorem shows_switchOn (h : Starting ppu memory) :
    Shows memory 1 (ppu.switchOn memory).value.ppu (ppu.switchOn memory).value.memory := by
  have hsame := samePicture_of_sameOutside (sameOutside_switchOn ppu memory)
  obtain ⟨hline, hdot, hmode, hwindow⟩ := start_switchOn h
  refine ⟨lcdOn_switchOn ppu memory, ⟨?_, ?_⟩, ⟨?_, ?_⟩, ⟨hsame, ?_, ?_⟩⟩
  · rw [hdot]
    decide
  · rw [hmode, hline, hdot]
    rfl
  · rw [hdot]
    decide
  · rw [hline]
    decide
  · rw [hline, hwindow]
    exact congrArg UInt8.ofNat (memory.windowRows_of_le (Nat.le_refl 1)).symm
  · -- no line has been entered, so nothing is claimed of the rows
    intro line _ hlow hhigh
    rw [hline] at hhigh
    exact absurd (Nat.le_trans hlow hhigh) (by decide)

/-- It makes no difference whether the display is switched on by the first run or before it. -/
theorem finishedFrames_switchOn (henabled : LcdControl.lcdEnabled memory.lcdControl = true)
    (counts : List Nat) :
    finishedFrames ppu memory counts =
      finishedFrames (ppu.switchOn memory).value.ppu (ppu.switchOn memory).value.memory counts := by
  cases counts with
  | nil => rfl
  | cons cycles rest =>
      -- the second run finds the display on and switches nothing
      have hrun : (ppu.run memory cycles).value =
          ((ppu.switchOn memory).value.ppu.run
            (ppu.switchOn memory).value.memory cycles).value := by
        have hlater :
            LcdControl.lcdEnabled (ppu.switchOn memory).value.memory.lcdControl = true := by
          rw [lcdControl_eq (sameOutside_switchOn ppu memory)]
          exact henabled
        have hdone : (ppu.switchOn memory).value.frameDone = false := by
          unfold switchOn
          split <;> rfl
        rw [run_of_enabled henabled, run_of_enabled hlater,
          switchOn_of_lcdOn (lcdOn_switchOn ppu memory), ← hdone]
        rfl
      rw [finishedFrames_cons, finishedFrames_cons, hrun]

/-- The frames that short runs report, from the start of the first frame. -/
theorem finishedFrames_eq (henabled : LcdControl.lcdEnabled memory.lcdControl = true)
    (h : Starting ppu memory) {counts : List Nat} (hcounts : ∀ cycles ∈ counts, cycles ≤ 456) :
    finishedFrames ppu memory counts = pictures memory 1 (counts.sum / 70224) := by
  rw [finishedFrames_switchOn henabled,
    (shows_switchOn h).finishedFrames_eq henabled (Nat.le_refl 1) hcounts, position_switchOn h,
    Nat.zero_add]

end

/-! ## Comparing the frames -/

/-- The two pictures differ for a window that begins on line 0 only, and then by one row of the
window on every line but that one. -/
theorem picture_zero_eq_one_iff (memory : Memory) :
    memory.picture 0 = memory.picture 1 ↔
      (memory.windowOn 0 = true → ∀ line, 0 < line → line < Frame.height →
        memory.row (UInt8.ofNat (line - 1)) line = memory.row (UInt8.ofNat line) line) := by
  cases hwindow : memory.windowOn 0 with
  | false =>
      -- a window that is off or begins below the top has counted the same rows in both
      have hsame (line : Nat) : memory.windowRows 0 line = memory.windowRows 1 line := by
        rw [memory.windowOn_eq, Bool.and_eq_false_iff, decide_eq_false_iff_not] at hwindow
        unfold Memory.windowRows
        rcases hwindow with hhidden | htop
        · rw [hhidden]
          rfl
        · rw [Nat.max_eq_right (Nat.zero_le _), Nat.max_eq_right (Nat.succ_le_of_lt
            (Nat.lt_of_not_le htop))]
      refine iff_of_true ?_ fun h => absurd h Bool.false_ne_true
      unfold Memory.picture
      simp only [hsame]
  | true =>
      -- the window begins at the top, where the later frames count a row and the first does not
      have htop : memory.windowTop = 0 := by
        rw [memory.windowOn_eq, Bool.and_eq_true, decide_eq_true_iff] at hwindow
        exact Nat.le_zero.mp hwindow.2
      have hzero {line : Nat} (h : line < Frame.height) :
          (memory.picture 0)[line] = memory.row (UInt8.ofNat line) line := by
        rw [memory.getElem_picture_eq 0 h, htop]
        rfl
      have hone {line : Nat} (h : line < Frame.height) :
          (memory.picture 1)[line] = memory.row (UInt8.ofNat (line - 1)) line := by
        rw [memory.getElem_picture_eq 1 h, htop]
        rfl
      constructor
      · intro heq _ line _ hline
        rw [← hone hline, ← hzero hline, heq]
      · intro hrows
        apply Vector.ext
        intro line hline
        rw [hzero hline, hone hline]
        -- the row on top is the same, since there is no window row before the first
        rcases Nat.eq_zero_or_pos line with rfl | hpos
        · rfl
        · exact (hrows rfl line hpos hline).symm

/-- **The first frame and the later ones.**  From the start of the first frame, under runs of a
line's length at most, the first frame shows the window from line 1 on at the earliest, the later
ones from line 0 on; so a later frame is equal to the first exactly if the window does not begin
on line 0, or if no line shows that it is one row further up. -/
theorem later_eq_first_iff {ppu : Ppu} {memory : Memory}
    (henabled : LcdControl.lcdEnabled memory.lcdControl = true) (h : Starting ppu memory)
    {counts : List Nat} (hcounts : ∀ cycles ∈ counts, 1 ≤ cycles ∧ cycles ≤ 456)
    {first : Frame} {rest : List Frame}
    (hframes : finishedFrames ppu memory counts = first :: rest) :
    rest.length + 1 = counts.sum / 70224 ∧
      (∀ line (hline : line < Frame.height), first[line] =
        memory.row (UInt8.ofNat (line - max 1 memory.windowTop)) line) ∧
      ∀ later ∈ rest,
        (∀ line (hline : line < Frame.height), later[line] =
          memory.row (UInt8.ofNat (line - memory.windowTop)) line) ∧
        (later = first ↔
          (memory.windowOn 0 = true → ∀ line, 0 < line → line < Frame.height →
            memory.row (UInt8.ofNat (line - 1)) line = memory.row (UInt8.ofNat line) line)) := by
  rw [finishedFrames_eq henabled h fun cycles hcycles => (hcounts cycles hcycles).2] at hframes
  cases hcount : counts.sum / 70224 with
  | zero =>
      rw [hcount] at hframes
      exact absurd hframes (List.cons_ne_nil first rest).symm
  | succ n =>
      rw [hcount] at hframes
      -- the first picture is followed by copies of the later one
      obtain ⟨rfl, rfl⟩ := List.cons.inj hframes
      refine ⟨by rw [List.length_replicate], fun line hline => ?_, fun later hlater => ?_⟩
      · exact memory.getElem_picture_eq 1 hline
      · obtain rfl := List.eq_of_mem_replicate hlater
        refine ⟨fun line hline => ?_, picture_zero_eq_one_iff memory⟩
        rw [memory.getElem_picture_eq 0 hline, Nat.max_eq_right (Nat.zero_le _)]

/-- A memory in which the window covers the screen and its topmost row is dark. -/
def windowMemory : Memory :=
  (((Memory.blank.store Address.lcdControl 0xB1).store Address.windowX 0x07).store
    Address.backgroundPalette 0xE4).store 0x8000 0xFF

theorem read_windowMemory (address : UInt16) :
    windowMemory.read address =
      if address = 0x8000 then 0xFF
      else if address = Address.backgroundPalette then 0xE4
      else if address = Address.windowX then 0x07
      else if address = Address.lcdControl then 0xB1 else 0 := by
  simp only [windowMemory, Memory.read_store, Memory.read_blank, eq_comm]

theorem lcdControl_windowMemory : windowMemory.lcdControl = 0xB1 := by
  rw [Memory.lcdControl, read_windowMemory]
  decide

theorem windowX_windowMemory : windowMemory.read Address.windowX = 0x07 := by
  rw [read_windowMemory]
  decide

theorem windowOn_windowMemory {line : Nat} : windowMemory.windowOn line = true := by
  have htop : windowMemory.read Address.windowY = 0 := by
    rw [read_windowMemory]
    decide
  have hbelow : decide ((0 : UInt8).toNat ≤ line) = true := decide_eq_true (Nat.zero_le line)
  rw [Memory.windowOn, lcdControl_windowMemory, windowX_windowMemory, htop, hbelow]
  rfl

/-- The left edge of the screen shows that of the window. -/
theorem getElem_row_windowMemory (windowLine : UInt8) (line : Nat) :
    (windowMemory.row windowLine line)[0] =
      shade 0xE4 (windowMemory.planeColour 0x9800 0 windowLine.toNat) := by
  have hsprites : windowMemory.spritesOn line = [] := by
    rw [Memory.spritesOn, lcdControl_windowMemory]
    rfl
  have hpalette : windowMemory.read Address.backgroundPalette = 0xE4 := by
    rw [read_windowMemory]
    decide
  -- without objects and with the window at the left edge the pixel is that of the window
  rw [Memory.row, Vector.getElem_ofFn, Memory.pixel, hsprites, hpalette, Memory.underlay,
    windowOn_windowMemory, Memory.windowColour, lcdControl_windowMemory,
    windowX_windowMemory]
  rfl

/-- On line 1 the two topmost rows of the window differ. -/
theorem row_windowMemory_ne :
    windowMemory.row (UInt8.ofNat 0) 1 ≠ windowMemory.row (UInt8.ofNat 1) 1 := by
  intro heq
  have hpixel := congrArg (fun row : Row => row[0]) heq
  simp only [getElem_row_windowMemory, Memory.planeColour, Memory.cell, lcdControl_windowMemory,
    read_windowMemory] at hpixel
  revert hpixel
  decide

/-- Two frames of 154 runs each, which differ. -/
theorem later_ne_first_windowMemory :
    (LcdControl.lcdEnabled windowMemory.lcdControl = true ∧ Starting powerOn windowMemory ∧
      ∀ cycles ∈ List.replicate 308 456, 1 ≤ cycles ∧ cycles ≤ 456) ∧
    ∃ first later,
      finishedFrames powerOn windowMemory (List.replicate 308 456) = [first, later] ∧
        later ≠ first := by
  have henabled : LcdControl.lcdEnabled windowMemory.lcdControl = true := by
    rw [lcdControl_windowMemory]
    rfl
  have hstart : Starting powerOn windowMemory := by
    refine Or.inl ⟨rfl, ?_⟩
    rw [Memory.line, read_windowMemory]
    decide
  have hcounts : ∀ cycles ∈ List.replicate 308 456, 1 ≤ cycles ∧ cycles ≤ 456 := by
    intro cycles hcycles
    rw [List.eq_of_mem_replicate hcycles]
    decide
  -- 308 lines make two frames
  have hframes : finishedFrames powerOn windowMemory (List.replicate 308 456) =
      [windowMemory.picture 1, windowMemory.picture 0] := by
    rw [finishedFrames_eq henabled hstart fun cycles hcycles => (hcounts cycles hcycles).2,
      List.sum_replicate_nat]
    rfl
  obtain ⟨-, -, hlater⟩ := later_eq_first_iff henabled hstart hcounts hframes
  refine ⟨⟨henabled, hstart, hcounts⟩, _, _, hframes, fun heq => ?_⟩
  have hrows := (hlater _ List.mem_cons_self).2.mp heq windowOn_windowMemory
  exact row_windowMemory_ne (hrows 1 (by decide) (by decide))

end GameBoy.Ppu
