import GameBoy.Proofs.Video.Rows

/-!
# The four shades

A palette gives each colour number one of four shades, so a row that has been drawn holds nothing
else, and a frame whose rows are all drawn or blank is `Shaded`.  The video unit keeps it so,
whatever memory holds: `Ppu.shaded_run`.
-/

namespace GameBoy

/-! ## Pixels -/

theorem shade_le (palette : UInt8) (colour : Nat) : shade palette colour ≤ 3 := by
  have hlow : palette.toNat >>> (2 * colour) % 4 ≤ 3 := Nat.le_of_lt_succ (Nat.mod_lt _ (by decide))
  rw [shade, UInt8.le_iff_toNat_le, UInt8.toNat_ofNat']
  exact Nat.le_trans (Nat.mod_le _ _) hlow

namespace Memory

variable (memory : Memory) (windowLine : UInt8) (line : Nat)

theorem pixel_le (sprites : List Sprite) (x : Nat) :
    memory.pixel sprites windowLine line x ≤ 3 := by
  unfold pixel
  dsimp only
  split
  · exact shade_le _ _
  · split
    · exact shade_le _ _
    · exact shade_le _ _

theorem le_of_mem_row {shade : UInt8} (h : shade ∈ memory.row windowLine line) : shade ≤ 3 := by
  obtain ⟨x, rfl⟩ := Vector.mem_ofFn.mp h
  exact memory.pixel_le windowLine line _ _

end Memory

/-! ## Frames -/

namespace Frame

/-- Every pixel has one of the four shades. -/
def Shaded (frame : Frame) : Prop := ∀ row ∈ frame, ∀ shade ∈ row, shade ≤ 3

theorem shaded_blank : blank.Shaded := by
  intro row hrow shade hshade
  obtain rfl := Vector.eq_of_mem_replicate hrow
  obtain rfl := Vector.eq_of_mem_replicate hshade
  decide

theorem Shaded.set {frame : Frame} (h : frame.Shaded) {row : Row} (hrow : ∀ shade ∈ row, shade ≤ 3)
    {line : Nat} (hline : line < height) : Shaded (Vector.set frame line row hline) := by
  intro other hother
  rcases Vector.mem_or_eq_of_mem_set hother with hold | rfl
  · exact h other hold
  · exact hrow

end Frame

/-! ## The video unit -/

namespace Ppu

theorem shaded_drawRow {ppu : Ppu} (h : ppu.frame.Shaded) (memory : Memory) (line : Nat) :
    (ppu.drawRow memory line).frame.Shaded := by
  rcases Nat.lt_or_ge line Frame.height with hvisible | hbelow
  · rw [frame_drawRow ppu memory hvisible]
    exact h.set (fun _ => memory.le_of_mem_row _ _) hvisible
  · rw [drawRow_of_le ppu memory hbelow]
    exact h

namespace Run

variable {run : Run} (h : run.ppu.frame.Shaded)
include h

theorem shaded_nextLine : run.nextLine.value.ppu.frame.Shaded := by
  rw [ppu_nextLine]
  apply shaded_drawRow
  rwa [frame_startLine]

theorem shaded_advance (dots : Nat) : (run.advance dots).value.ppu.frame.Shaded := by
  rcases Nat.lt_or_ge (run.ppu.dot + dots) dotsPerLine with hlt | hge
  · rw [advance_of_lt run hlt, frame_updateMode]
    exact h
  · rw [advance_of_le run hge, Logged.value_bind, frame_updateMode]
    generalize run.ppu.dot + dots - dotsPerLine = dot
    have hmoved : (run.setDot dot).ppu.frame.Shaded := h
    exact shaded_nextLine hmoved

theorem shaded_walk (dots : Nat) : (walk dots run).value.ppu.frame.Shaded :=
  walk_induction (P := fun other => other.ppu.frame.Shaded)
    (fun _ dots _ hother => shaded_advance hother dots) dots run h

end Run

variable {ppu : Ppu} (h : ppu.frame.Shaded)
include h

theorem shaded_switchOn (memory : Memory) : (ppu.switchOn memory).value.ppu.frame.Shaded := by
  cases hon : ppu.lcdOn with
  | true =>
      rw [switchOn_of_lcdOn hon]
      exact h
  | false =>
      rw [value_switchOn_of_dark hon]
      exact h

/-- Whatever memory holds, the picture is made of the four shades. -/
theorem shaded_run (memory : Memory) (cycles : Nat) :
    (ppu.run memory cycles).value.ppu.frame.Shaded := by
  cases henabled : LcdControl.lcdEnabled memory.lcdControl with
  | true =>
      rw [run_of_enabled henabled, Logged.value_bind]
      exact Run.shaded_walk (shaded_switchOn h memory) cycles
  | false =>
      rw [run_of_disabled henabled]
      exact h

end Ppu

end GameBoy
