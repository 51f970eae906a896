import GameBoy.Proofs.Video.Advance

/-!
# Walking dot by dot

`Run.walk` goes from boundary to boundary, since the mode can change nowhere else.  A run whose
mode is that of its position is `Aligned`, and for such a run it makes no difference where the
walk is interrupted: short of a boundary an advance only moves the dot and shows the mode again
(`Aligned.advance_within`), and what is shown of the mode is not looked at.  So a walk is a sequence
of single dots, `Aligned.walk_succ`, and walks add up, `Aligned.walk_add`.
-/

namespace GameBoy.Ppu

open Memory (SameOutside)

/-! ## Boundaries -/

theorem boundary_le (dot : Nat) : boundary dot ≤ dotsPerLine := by
  unfold boundary dotsPerLine
  split
  · decide
  · split <;> decide

theorem boundary_eq {dot other : Nat} (h : dot ≤ other) (h' : other < boundary dot) :
    boundary other = boundary dot := by
  unfold boundary dotsPerLine at *
  split at h'
  · rw [if_pos h', if_pos (by omega)]
  · split at h'
    · rw [if_neg (by omega), if_pos h', if_neg (by omega), if_pos (by omega)]
    · rw [if_neg (by omega), if_neg (by omega), if_neg (by omega), if_neg (by omega)]

/-- The mode changes nowhere but at a boundary. -/
theorem ofPosition_eq (line : UInt8) {dot other : Nat} (h : dot ≤ other)
    (h' : other < boundary dot) : Mode.ofPosition line other = Mode.ofPosition line dot := by
  unfold Mode.ofPosition
  -- no boundary lies between the two dots, so every test goes the same way for both
  split
  · rfl
  · unfold boundary at h'
    split at h'
    · rw [if_pos h', if_pos (by omega)]
    · split at h'
      · rw [if_neg (by omega), if_pos h', if_neg (by omega), if_pos (by omega)]
      · rw [if_neg (by omega), if_neg (by omega), if_neg (by omega), if_neg (by omega)]

namespace Run

/-! ## Aligned runs -/

/-- The mode of an aligned run is that of its position. -/
structure Aligned (run : Run) : Prop where
  dot_lt : run.ppu.dot < dotsPerLine
  mode_eq : run.ppu.mode = Mode.ofPosition run.memory.line run.ppu.dot

theorem aligned_updateMode {run : Run} (h : run.ppu.dot < dotsPerLine) :
    run.updateMode.value.Aligned := by
  refine ⟨by rwa [dot_updateMode], ?_⟩
  rw [line_updateMode, dot_updateMode, value_updateMode]

/-- Whatever the mode was, it is that of the position after an advance within the line. -/
theorem aligned_advance {run : Run} {dots : Nat} (h : run.ppu.dot + dots ≤ dotsPerLine) :
    (run.advance dots).value.Aligned := by
  rcases Nat.lt_or_ge (run.ppu.dot + dots) dotsPerLine with hlt | hge
  · rw [advance_of_lt run hlt]
    exact aligned_updateMode hlt
  · rw [advance_of_le run hge, Logged.value_bind]
    apply aligned_updateMode
    have hpos : 0 < dotsPerLine := by decide
    rw [dot_nextLine, dot_setDot]
    omega

/-- Short of the next boundary an aligned run only moves its dot and shows its mode. -/
theorem Aligned.advance_within {run : Run} (h : run.Aligned) {dots : Nat}
    (hdots : run.ppu.dot + dots < boundary run.ppu.dot) :
    run.advance dots = pure ((run.setDot (run.ppu.dot + dots)).showMode run.ppu.mode) := by
  have hmode : Mode.ofPosition run.memory.line (run.ppu.dot + dots) = run.ppu.mode := by
    rw [h.mode_eq]
    exact ofPosition_eq _ (Nat.le_add_right _ _) hdots
  rw [advance_of_lt run (Nat.lt_of_lt_of_le hdots (boundary_le _))]
  obtain ⟨⟨dot, mode, lcdOn, windowLine, frame⟩, memory, frameDone⟩ := run
  unfold updateMode
  dsimp only [setDot] at hmode ⊢
  rw [hmode, if_pos rfl]
  rfl

/-- An advance may be interrupted anywhere short of the boundary. -/
theorem Aligned.advance_add {run : Run} (h : run.Aligned) {first : Nat}
    (hfirst : run.ppu.dot + first < boundary run.ppu.dot) (second : Nat) :
    run.advance first >>= (·.advance second) = run.advance (first + second) := by
  rw [h.advance_within hfirst, pure_bind, advance_showMode]
  have hsum : run.ppu.dot + first + second = run.ppu.dot + (first + second) := Nat.add_assoc ..
  rcases Nat.lt_or_ge (run.ppu.dot + (first + second)) dotsPerLine with hlt | hge
  · rw [advance_of_lt run hlt, ← hsum]
    exact advance_of_lt (run.setDot _) (hsum ▸ hlt)
  · rw [advance_of_le run hge, ← hsum]
    exact advance_of_le (run.setDot _) (hsum ▸ hge)

/-! ## Walks -/

theorem walk_zero (run : Run) : walk 0 run = pure run := by
  rw [walk, dif_neg (fun h => Nat.lt_irrefl 0 h.1)]

theorem walk_of_pos (run : Run) (h : run.ppu.dot < dotsPerLine) {dots : Nat} (hdots : 0 < dots) :
    walk dots run =
      run.advance (min dots (boundary run.ppu.dot - run.ppu.dot)) >>=
        walk (dots - min dots (boundary run.ppu.dot - run.ppu.dot)) := by
  rw [walk, dif_pos ⟨hdots, h⟩]

/-- What every advance within a line keeps is kept by a walk. -/
theorem walk_induction {P : Run → Prop}
    (hadvance : ∀ (run : Run) (dots : Nat),
      run.ppu.dot + dots ≤ dotsPerLine → P run → P (run.advance dots).value)
    (dots : Nat) (run : Run) (h : P run) : P (walk dots run).value := by
  induction dots, run using walk.induct with
  | case1 dots run hwalk chunk ih =>
      have hboundary := boundary_le run.ppu.dot
      have hchunk : run.ppu.dot + chunk ≤ dotsPerLine := by omega
      rw [walk_of_pos run hwalk.2 hwalk.1, Logged.value_bind]
      exact ih _ (hadvance run chunk hchunk h)
  | case2 dots run hwalk =>
      rw [walk, dif_neg hwalk]
      exact h

/-- The first dot of a walk may be made on its own. -/
theorem Aligned.walk_succ {run : Run} (h : run.Aligned) (dots : Nat) :
    walk (dots + 1) run = run.advance 1 >>= walk dots := by
  have hroom := lt_boundary h.dot_lt
  have hline := boundary_le run.ppu.dot
  have hpos : 0 < dots + 1 := Nat.succ_pos dots
  rw [walk_of_pos run h.dot_lt hpos]
  generalize hchunk : min (dots + 1) (boundary run.ppu.dot - run.ppu.dot) = chunk
  -- a longer first chunk is split after its first dot, which stays short of the boundary
  cases chunk with
  | zero => omega
  | succ rest =>
      cases rest with
      | zero => rfl
      | succ rest =>
          have hwithin : run.ppu.dot + 1 < boundary run.ppu.dot := by omega
          have hnext : boundary (run.ppu.dot + 1) = boundary run.ppu.dot :=
            boundary_eq (Nat.le_add_right _ 1) hwithin
          have hrest : min dots (boundary (run.ppu.dot + 1) - (run.ppu.dot + 1)) = rest + 1 := by
            omega
          have htail : walk dots ((run.setDot (run.ppu.dot + 1)).showMode run.ppu.mode) =
              ((run.setDot (run.ppu.dot + 1)).showMode run.ppu.mode).advance (rest + 1) >>=
                walk (dots - (rest + 1)) := by
            rw [← hrest]
            exact walk_of_pos _ (Nat.lt_of_lt_of_le hwithin hline) (by omega)
          have hsplit := h.advance_add hwithin (rest + 1)
          rw [Nat.add_comm 1] at hsplit
          rw [← hsplit, h.advance_within hwithin, pure_bind, pure_bind, htail,
            Nat.add_sub_add_right]

theorem aligned_walk {run : Run} (h : run.Aligned) (dots : Nat) :
    (walk dots run).value.Aligned :=
  walk_induction (fun _ _ hdots _ => aligned_advance hdots) dots run h

/-- The first advance of a walk brings the mode in line with the position. -/
theorem aligned_walk_of_pos {run : Run} (hdot : run.ppu.dot < dotsPerLine) {dots : Nat}
    (hdots : 0 < dots) : (walk dots run).value.Aligned := by
  have hboundary := boundary_le run.ppu.dot
  have hchunk : run.ppu.dot + min dots (boundary run.ppu.dot - run.ppu.dot) ≤ dotsPerLine := by
    omega
  rw [walk_of_pos run hdot hdots, Logged.value_bind]
  exact aligned_walk (aligned_advance hchunk) _

/-- A walk may be interrupted anywhere. -/
theorem Aligned.walk_add {run : Run} (h : run.Aligned) (first second : Nat) :
    walk (first + second) run = walk first run >>= walk second := by
  induction first generalizing run with
  | zero => rw [Nat.zero_add, walk_zero, pure_bind]
  | succ first ih =>
      have hnext : (run.advance 1).value.Aligned := aligned_advance (Nat.succ_le_of_lt h.dot_lt)
      rw [Nat.add_right_comm, h.walk_succ, h.walk_succ, bind_assoc]
      exact Logged.bind_congr_value (ih hnext)

/-- The last dot of a walk may be made on its own. -/
theorem Aligned.value_walk_succ {run : Run} (h : run.Aligned) (dots : Nat) :
    (walk (dots + 1) run).value = ((walk dots run).value.advance 1).value := by
  have hone := (aligned_walk h dots).walk_succ 0
  rw [h.walk_add dots 1, Logged.value_bind, hone, Logged.value_bind, walk_zero]
  rfl

/-! ## What a walk keeps -/

theorem lcdOn_walk (run : Run) (dots : Nat) :
    (walk dots run).value.ppu.lcdOn = run.ppu.lcdOn :=
  walk_induction (P := fun other => other.ppu.lcdOn = run.ppu.lcdOn)
    (fun other dots _ h => (lcdOn_advance other dots).trans h) dots run rfl

theorem sameOutside_walk (run : Run) (dots : Nat) :
    SameOutside videoCells run.memory (walk dots run).value.memory :=
  walk_induction (P := fun other => SameOutside videoCells run.memory other.memory)
    (fun other dots _ h => h.trans (sameOutside_advance other dots)) dots run (.refl _)

theorem walk_orDone (run : Run) (done : Bool) (dots : Nat) :
    walk dots (run.orDone done) = (·.orDone done) <$> walk dots run := by
  -- the flag is carried along and decides nothing
  induction dots, run using walk.induct with
  | case1 dots run hwalk chunk ih =>
      have hwith := walk_of_pos (run.orDone done) hwalk.2 hwalk.1
      rw [ppu_orDone, advance_orDone, bind_map_left] at hwith
      rw [hwith, walk_of_pos run hwalk.2 hwalk.1, map_bind]
      exact Logged.bind_congr_value (ih _)
  | case2 dots run hwalk =>
      have hwith : walk dots (run.orDone done) = pure (run.orDone done) := by
        rw [walk, ppu_orDone, dif_neg hwalk]
      rw [hwith, walk, dif_neg hwalk, map_pure]

end Run

end GameBoy.Ppu
