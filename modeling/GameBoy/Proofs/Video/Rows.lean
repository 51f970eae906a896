import GameBoy.Proofs.Video.Position

/-!
# The rows that have been drawn

A line is drawn when it is entered, with the number of window rows drawn before it in the frame.
That number depends on where the frame began: `Memory.picture first` is the frame whose window
rows are counted from line `first` on.

`Drawn memory first` says of a run that the lines from `first` up to the current one show the
picture that `memory` describes.  Entering a line keeps it, `Drawn.nextLine`; entering the first
line completes the picture and begins the next one at line 0, `Drawn.rollover`.
-/

namespace GameBoy

namespace Memory

/-! ## Rows of the window -/

/-- The window is enabled, and its left edge is on the screen. -/
def windowVisible (memory : Memory) : Bool :=
  LcdControl.backgroundEnabled memory.lcdControl &&
    LcdControl.windowEnabled memory.lcdControl &&
    decide (memory.read Address.windowX ≤ 166)

/-- The line at which the window begins. -/
def windowTop (memory : Memory) : Nat := (memory.read Address.windowY).toNat

variable (memory : Memory)

theorem windowOn_eq (line : Nat) :
    memory.windowOn line = (memory.windowVisible && decide (memory.windowTop ≤ line)) := by
  unfold windowOn windowVisible windowTop
  rw [Bool.and_right_comm]

/-- The number of window rows from line `first` on and above a line. -/
def windowRows (first line : Nat) : Nat :=
  if memory.windowVisible then line - max first memory.windowTop else 0

theorem windowRows_of_le {first line : Nat} (h : line ≤ first) :
    memory.windowRows first line = 0 := by
  unfold windowRows
  split <;> omega

theorem windowRows_succ {first line : Nat} (h : first ≤ line) :
    memory.windowRows first (line + 1) =
      memory.windowRows first line + (memory.windowOn line).toNat := by
  rw [windowOn_eq]
  unfold windowRows
  cases memory.windowVisible with
  | false => rfl
  | true =>
      rw [if_pos rfl, if_pos rfl, Bool.true_and]
      by_cases hbelow : memory.windowTop ≤ line
      · rw [decide_eq_true hbelow, Bool.toNat_true]
        omega
      · rw [decide_eq_false hbelow, Bool.toNat_false]
        omega

/-- The picture that memory describes, with the window rows counted from line `first` on. -/
def picture (first : Nat) : Frame :=
  .ofFn fun line => memory.row (UInt8.ofNat (memory.windowRows first line.val)) line.val

theorem getElem_picture (first : Nat) {line : Nat} (h : line < Frame.height) :
    (memory.picture first)[line] = memory.row (UInt8.ofNat (memory.windowRows first line)) line :=
  Vector.getElem_ofFn h

/-- Where the window is on, line `line` of the picture shows the row of the window that lies as
far below its top, or below the first line counted. -/
theorem getElem_picture_eq (first : Nat) {line : Nat} (h : line < Frame.height) :
    (memory.picture first)[line] =
      memory.row (UInt8.ofNat (line - max first memory.windowTop)) line := by
  rw [getElem_picture]
  cases hvisible : memory.windowVisible with
  | false =>
      have hoff : memory.windowOn line = false := by rw [windowOn_eq, hvisible, Bool.false_and]
      exact row_eq_of_not_windowOn hoff _ _
  | true => rw [windowRows, if_pos hvisible]

end Memory

namespace Ppu

open Memory (SameOutside SamePicture)

/-! ## Drawing a row -/

section

variable (ppu : Ppu) (memory : Memory)

theorem drawRow_of_le {line : Nat} (h : Frame.height ≤ line) : ppu.drawRow memory line = ppu :=
  dif_neg (Nat.not_lt.mpr h)

theorem frame_drawRow {line : Nat} (h : line < Frame.height) :
    (ppu.drawRow memory line).frame =
      ppu.frame.set line (memory.row ppu.windowLine line) h := by
  rw [drawRow, dif_pos h]

theorem windowLine_drawRow {line : Nat} (h : line < Frame.height) :
    (ppu.drawRow memory line).windowLine =
      if memory.windowOn line then ppu.windowLine + 1 else ppu.windowLine := by
  rw [drawRow, dif_pos h]

theorem frame_startLine (line : UInt8) : (Run.startLine ppu line).frame = ppu.frame := by
  unfold Run.startLine
  dsimp only
  split <;> split <;> rfl

theorem windowLine_startLine (line : UInt8) :
    (Run.startLine ppu line).windowLine = if line = 0 then 0 else ppu.windowLine := by
  unfold Run.startLine
  dsimp only
  split <;> split <;> rfl

end

namespace Run

/-- The lines from `first` up to the current one have been drawn from memory. -/
structure Drawn (memory : Memory) (first : Nat) (run : Run) : Prop where
  samePicture : run.memory.SamePicture memory
  windowLine_eq : run.ppu.windowLine =
    UInt8.ofNat (memory.windowRows first (min (run.memory.line.toNat + 1) 144))
  row_eq : ∀ line (h : line < Frame.height), first ≤ line → line ≤ run.memory.line.toNat →
    run.ppu.frame[line] = (memory.picture first)[line]

variable {memory : Memory} {first : Nat} {run : Run}

/-- A run that shows the same lines and the same frame has drawn the same rows. -/
theorem Drawn.congr {other : Run} (h : Drawn memory first run)
    (hmemory : SameOutside videoCells run.memory other.memory)
    (hline : other.memory.line = run.memory.line)
    (hwindow : other.ppu.windowLine = run.ppu.windowLine)
    (hframe : other.ppu.frame = run.ppu.frame) : Drawn memory first other := by
  refine ⟨(samePicture_of_sameOutside hmemory).trans h.samePicture, ?_, ?_⟩
  · rw [hwindow, hline]
    exact h.windowLine_eq
  · rw [hframe, hline]
    exact h.row_eq

theorem frame_updateMode (run : Run) : run.updateMode.value.ppu.frame = run.ppu.frame := by
  rw [value_updateMode]

theorem windowLine_updateMode (run : Run) :
    run.updateMode.value.ppu.windowLine = run.ppu.windowLine := by
  rw [value_updateMode]

theorem Drawn.updateMode (h : Drawn memory first run) :
    Drawn memory first run.updateMode.value :=
  h.congr ((sameOutside_updateMode run).mono (by decide)) (line_updateMode run)
    (windowLine_updateMode run) (frame_updateMode run)

/-! ## Entering a line -/

section

variable {ppu : Ppu} {other : Memory} {line : Nat} (hsame : other.SamePicture memory)
  (hwindow : ppu.windowLine = UInt8.ofNat (memory.windowRows first line))
  (hline : line < Frame.height)
include hsame hwindow hline

/-- Drawing a line counts its row of the window. -/
theorem windowLine_drawRow_eq (hfirst : first ≤ line) :
    (ppu.drawRow other line).windowLine = UInt8.ofNat (memory.windowRows first (line + 1)) := by
  rw [windowLine_drawRow ppu other hline, hsame.windowOn, memory.windowRows_succ hfirst, hwindow,
    UInt8.ofNat_add]
  cases memory.windowOn line with
  | false => exact (UInt8.add_zero _).symm
  | true => rfl

theorem frame_drawRow_eq :
    (ppu.drawRow other line).frame = ppu.frame.set line (memory.picture first)[line] hline := by
  rw [frame_drawRow ppu other hline, hsame.row _ hline, memory.getElem_picture first hline, hwindow]

end

theorem ppu_nextLine (run : Run) :
    run.nextLine.value.ppu =
      (startLine run.ppu (lineAfter run.memory.line)).drawRow run.nextLine.value.memory
        (lineAfter run.memory.line).toNat := by
  rw [value_nextLine]

theorem Drawn.samePicture_nextLine (h : Drawn memory first run) :
    run.nextLine.value.memory.SamePicture memory :=
  (samePicture_of_sameOutside (sameOutside_nextLine run)).trans h.samePicture

/-- Entering a line other than the first draws it, if it is on the screen. -/
theorem Drawn.nextLine (h : Drawn memory first run) (hline : run.memory.line < 153)
    (hfirst : first ≤ run.memory.line.toNat + 1) : Drawn memory first run.nextLine.value := by
  have hlast : run.memory.line.toNat < 153 := UInt8.lt_iff_toNat_lt.mp hline
  have hnew : (lineAfter run.memory.line).toNat = run.memory.line.toNat + 1 := by
    rw [toNat_lineAfter (UInt8.le_of_lt hline), Nat.mod_eq_of_lt (Nat.succ_lt_succ hlast)]
  have hne : lineAfter run.memory.line ≠ 0 := by
    intro heq
    rw [heq] at hnew
    exact absurd hnew (Nat.succ_ne_zero _).symm
  have hsame := h.samePicture_nextLine
  -- only line 0 starts the count of window rows anew
  have hwindow : (startLine run.ppu (lineAfter run.memory.line)).windowLine =
      UInt8.ofNat (memory.windowRows first (min (run.memory.line.toNat + 1) 144)) := by
    rw [windowLine_startLine, if_neg hne]
    exact h.windowLine_eq
  have hppu := ppu_nextLine run
  rw [hnew] at hppu
  have hafter : run.nextLine.value.memory.line.toNat = run.memory.line.toNat + 1 := by
    rw [line_nextLine, hnew]
  rcases Nat.lt_or_ge (run.memory.line.toNat + 1) Frame.height with hvisible | hbelow
  · -- a visible line: its row is new, the rows above it are those drawn before
    rw [Nat.min_eq_left (Nat.le_of_lt hvisible)] at hwindow
    refine ⟨hsame, ?_, ?_⟩
    · rw [hafter, hppu, Nat.min_eq_left hvisible]
      exact windowLine_drawRow_eq hsame hwindow hvisible hfirst
    · intro line hline hlow hhigh
      rw [hafter] at hhigh
      rw [hppu, frame_drawRow_eq hsame hwindow hvisible, frame_startLine, Vector.getElem_set]
      split
      · rename_i heq
        subst heq
        rfl
      · exact h.row_eq line hline hlow (by omega)
  · -- in the vertical blank neither the frame nor the count of window rows changes
    rw [drawRow_of_le _ _ hbelow] at hppu
    refine ⟨hsame, ?_, ?_⟩
    · rw [hafter, hppu, hwindow, Nat.min_eq_right hbelow,
        Nat.min_eq_right (Nat.le_succ_of_le hbelow)]
    · intro line hline hlow hhigh
      rw [hafter] at hhigh
      rw [hppu, frame_startLine]
      exact h.row_eq line hline hlow (by omega)

/-- No row of the window has been drawn above the first line. -/
theorem windowLine_startLine_zero (ppu : Ppu) (memory : Memory) (first : Nat) :
    (startLine ppu 0).windowLine = UInt8.ofNat (memory.windowRows first 0) := by
  rw [windowLine_startLine, if_pos rfl, memory.windowRows_of_le (Nat.zero_le first)]
  rfl

theorem ppu_nextLine_of_zero (hnew : lineAfter run.memory.line = 0) :
    run.nextLine.value.ppu = (startLine run.ppu 0).drawRow run.nextLine.value.memory 0 := by
  rw [ppu_nextLine, hnew]
  rfl

/-- Entering the first line begins a picture with all of its rows to be counted, whatever has been
drawn before. -/
theorem drawn_nextLine (hsame : run.memory.SamePicture memory)
    (hnew : lineAfter run.memory.line = 0) : Drawn memory 0 run.nextLine.value := by
  have hnext : run.nextLine.value.memory.SamePicture memory :=
    (samePicture_of_sameOutside (sameOutside_nextLine run)).trans hsame
  -- the count starts anew with the line
  have hwindow := windowLine_startLine_zero run.ppu memory 0
  have hppu := ppu_nextLine_of_zero hnew
  have hafter : run.nextLine.value.memory.line.toNat = 0 := by
    rw [line_nextLine, hnew]
    rfl
  have htop : 0 < Frame.height := by decide
  refine ⟨hnext, ?_, ?_⟩
  · rw [hafter, hppu]
    exact windowLine_drawRow_eq hnext hwindow htop (Nat.le_refl 0)
  · intro line hline _ hhigh
    rw [hafter] at hhigh
    obtain rfl : line = 0 := Nat.le_zero.mp hhigh
    rw [hppu, frame_drawRow_eq hnext hwindow htop, Vector.getElem_set_self]

/-- Entering the first line completes the picture, and begins the next with all of its rows to be
counted. -/
theorem Drawn.rollover (h : Drawn memory first run) (hline : run.memory.line = 153)
    (hfirst : first ≤ 1) :
    Drawn memory 0 run.nextLine.value ∧ run.nextLine.value.ppu.frame = memory.picture first := by
  have hnew : lineAfter run.memory.line = 0 := by
    rw [hline]
    rfl
  refine ⟨drawn_nextLine h.samePicture hnew, ?_⟩
  -- the topmost row does not depend on where the count began
  have hwindow := windowLine_startLine_zero run.ppu memory first
  rw [ppu_nextLine_of_zero hnew, frame_drawRow_eq h.samePicture_nextLine hwindow (by decide),
    frame_startLine]
  apply Vector.ext
  intro line hline'
  rw [Vector.getElem_set]
  split
  · rename_i heq
    subst heq
    rfl
  · -- the rows below are still those of the frame that ends
    apply h.row_eq line hline' (by omega)
    rw [hline]
    exact Nat.le_of_lt (Nat.lt_of_lt_of_le hline' (by decide))

end Run

end Ppu

end GameBoy
