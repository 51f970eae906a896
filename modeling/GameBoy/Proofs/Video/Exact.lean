import GameBoy.Proofs.Video.Schedule
import GameBoy.Proofs.Width

/-!
# The video unit in counters of 32 bits

The dot and the dots still to go are words of 32 bits.  `Run.walk?` is a walk in these terms,
operation for operation, and fails where one of them would leave its range: beyond the end of a
line there is no room to the next boundary.  From a dot within the line it does not fail, and
returns what `Run.walk` returns, whatever software has made of the line register: `run?_eq_some`.
-/

namespace GameBoy.Ppu

open Width

namespace Run

/-- One turn of the loop of a walk in counters of 32 bits: the dots still to go after it, and the
run. -/
def turn? (dots : Nat) (run : Run) : Option (Nat × Run) := do
  let room ← difference? (boundary run.ppu.dot) run.ppu.dot
  let chunk := min dots room
  let dot ← sum? 32 run.ppu.dot chunk
  let rest ← difference? dots chunk
  if dotsPerLine ≤ dot then
    let dot ← difference? dot dotsPerLine
    some (rest, (run.setDot dot).nextLine.value.updateMode.value)
  else
    some (rest, (run.setDot dot).updateMode.value)

/-- A walk in counters of 32 bits.  A loop that gets nowhere has no result. -/
def walk? (dots : Nat) (run : Run) : Option Run :=
  if 0 < dots then do
    let (rest, run) ← run.turn? dots
    if _ : rest < dots then run.walk? rest else none
  else
    some run
termination_by dots

/-- Up to the next boundary no counter leaves its range, and none comes near its limit. -/
theorem turn?_eq_some {run : Run} (h : run.ppu.dot < dotsPerLine) (dots : Nat) :
    run.turn? dots =
      some (dots - min dots (boundary run.ppu.dot - run.ppu.dot),
        (run.advance (min dots (boundary run.ppu.dot - run.ppu.dot))).value) := by
  have hroom := lt_boundary h
  have hline := boundary_le run.ppu.dot
  have hle := Nat.min_le_left dots (boundary run.ppu.dot - run.ppu.dot)
  -- a chunk goes no further than the end of the line, so the dot has room
  have hfits : run.ppu.dot + min dots (boundary run.ppu.dot - run.ppu.dot) < 2 ^ 32 :=
    Nat.lt_of_le_of_lt (by omega) (by decide : dotsPerLine < 2 ^ 32)
  rw [turn?, difference?_eq_some (Nat.le_of_lt hroom)]
  simp only [Option.bind_eq_bind, Option.bind_some, sum?_eq_some hfits, difference?_eq_some hle]
  split
  · rename_i hend
    rw [difference?_eq_some hend, Option.bind_some, advance_of_le run hend, Logged.value_bind]
  · rename_i hshort
    rw [advance_of_lt run (Nat.lt_of_not_le hshort)]

theorem walk?_eq_some {run : Run} (h : run.ppu.dot < dotsPerLine) (dots : Nat) :
    run.walk? dots = some (walk dots run).value := by
  -- by the recursion of the walk: while the dot is in its line, every turn makes progress
  induction dots, run using walk.induct with
  | case1 dots run hwalk chunk ih =>
      have hroom := lt_boundary h
      have hline := boundary_le run.ppu.dot
      have hchunk : run.ppu.dot + chunk ≤ dotsPerLine := by omega
      have hrest : dots - chunk < dots := by omega
      rw [walk?, if_pos hwalk.1, turn?_eq_some h, walk_of_pos run h hwalk.1, Logged.value_bind]
      exact (dif_pos hrest).trans (ih _ (aligned_advance hchunk).dot_lt)
  | case2 dots run hwalk =>
      have hzero : ¬ 0 < dots := fun hpos => hwalk ⟨hpos, h⟩
      rw [walk?, walk, if_neg hzero, dif_neg hwalk]
      rfl

end Run

/-- A run in counters of 32 bits. -/
def run? (ppu : Ppu) (memory : Memory) (cycles : Nat) : Option Run :=
  if LcdControl.lcdEnabled memory.lcdControl then
    (ppu.switchOn memory).value.walk? cycles
  else
    some (ppu.switchOff memory).value

/-- From a dot within the line, a run in 32 bits is a run. -/
theorem run?_eq_some {ppu : Ppu} (h : ppu.dot < dotsPerLine) (memory : Memory) (cycles : Nat) :
    ppu.run? memory cycles = some (ppu.run memory cycles).value := by
  unfold run? run
  split
  · rw [Logged.value_bind, Run.walk?_eq_some (dot_switchOn_lt h memory)]
  · rfl

end GameBoy.Ppu
