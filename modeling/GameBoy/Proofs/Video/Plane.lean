import GameBoy.Proofs.Video.Rows

/-!
# Planes put together from tiles

A tile is a square of eight by eight colour numbers, and a map names 32 by 32 of them.
`Memory.plane` decodes a map tile by tile, as the squares lie next to each other, and
`colour_plane` finds every pixel of a tile again where the tile lies in the map.  The conversion of
a row instead computes an address for each pixel; `planeColour_eq` says that it looks into the same
plane.

The main statement is `Ppu.drawRow_of_no_objects`: a row shows the plane of the background, wrapped
around under the scroll registers, and the plane of the window from its left edge on.
-/

namespace GameBoy

/-- A plane of colour numbers, row by row. -/
abbrev Plane := Vector (Vector Nat (32 * 8)) (32 * 8)

/-- The colour number at a column and a row; the edges of a plane meet. -/
def Plane.colour (plane : Plane) (x y : Nat) : Nat := plane[y % 256][x % 256]

theorem Plane.colour_of_lt (plane : Plane) {x y : Nat} (hx : x < 256) (hy : y < 256) :
    plane.colour x y = plane[y][x] := by
  simp only [colour, Nat.mod_eq_of_lt hx, Nat.mod_eq_of_lt hy]

theorem Plane.colour_mod (plane : Plane) (x y : Nat) :
    plane.colour (x % 256) (y % 256) = plane.colour x y := by
  simp only [colour, Nat.mod_mod]

namespace Memory

variable (memory : Memory)

/-! ## Tiles -/

/-- The colour number in column `i` and row `j` of the tile that begins at an address.  The two
bytes of a row hold the low and the high bits of its colour numbers, the leftmost in the highest
position. -/
def tileColour (address i j : Nat) : Nat :=
  colourNumber (memory.cell (address + 2 * j)) (memory.cell (address + 2 * j + 1)) (7 - i)

/-- The tile that begins at an address, row by row. -/
def tile (address : Nat) : Vector (Vector Nat 8) 8 :=
  .ofFn fun j => .ofFn fun i => memory.tileColour address i j

/-- The first cell of the tile of a number: numbers are signed and count from 0x9000, unless the
control register makes them count upwards from 0x8000. -/
def tileStart (number : UInt8) : Nat :=
  if bit memory.lcdControl 4 then 0x8000 + 16 * number.toNat
  else (0x9000 + 16 * number.toInt8.toInt).toNat

/-- The tile in column `a` and row `b` of a map. -/
def tileAt (map a b : Nat) : Vector (Vector Nat 8) 8 :=
  memory.tile (memory.tileStart (memory.cell (map + 32 * b + a)))

/-! ## Planes -/

/-- The 32 tiles in row `b` of a map, side by side. -/
def tileRow (map b : Nat) : Vector (Vector Nat (32 * 8)) 8 :=
  .ofFn fun j => (Vector.ofFn fun a : Fin 32 => (memory.tileAt map a b)[j.val]).flatten

/-- The plane that a map describes. -/
def plane (map : Nat) : Plane := (Vector.ofFn fun b : Fin 32 => memory.tileRow map b).flatten

theorem getElem_tile (address : Nat) {i j : Nat} (hi : i < 8) (hj : j < 8) :
    (memory.tile address)[j][i] = memory.tileColour address i j := by
  rw [show (memory.tile address)[j] = .ofFn fun i => memory.tileColour address i j from
    Vector.getElem_ofFn hj, Vector.getElem_ofFn]

/-- Position `k * a + i` of blocks of length `k` joined together is position `i` of block `a`. -/
theorem getElem_flatten_block {α : Type} {n k : Nat} (blocks : Vector (Vector α k) n) {a i : Nat}
    (ha : a < n) (hi : i < k) (h : k * a + i < n * k) :
    blocks.flatten[k * a + i] = blocks[a][i] := by
  have hdiv : (k * a + i) / k = a := by
    rw [Nat.mul_add_div (Nat.zero_lt_of_lt hi), Nat.div_eq_of_lt hi, Nat.add_zero]
  have hmod : (k * a + i) % k = i := by rw [Nat.mul_add_mod, Nat.mod_eq_of_lt hi]
  simp only [Vector.getElem_flatten, hdiv, hmod]

/-- A tile lies in the plane where it lies in the map. -/
theorem colour_plane (map : Nat) {a b i j : Nat} (ha : a < 32) (hb : b < 32) (hi : i < 8)
    (hj : j < 8) :
    (memory.plane map).colour (8 * a + i) (8 * b + j) =
      memory.tileColour (memory.tileStart (memory.cell (map + 32 * b + a))) i j := by
  have hx : 8 * a + i < 32 * 8 := by omega
  have hy : 8 * b + j < 32 * 8 := by omega
  -- a row of pixels lies in one row of tiles, and a pixel of it in one tile
  have hrow : (memory.plane map)[8 * b + j] = (memory.tileRow map b)[j] := by
    rw [plane, getElem_flatten_block _ hb hj hy, Vector.getElem_ofFn]
  have hpixel : (memory.tileRow map b)[j][8 * a + i] = (memory.tileAt map a b)[j][i] := by
    simp only [tileRow, Vector.getElem_ofFn, getElem_flatten_block _ ha hi hx]
  rw [Plane.colour_of_lt _ hx hy, hrow, hpixel, tileAt, getElem_tile memory _ hi hj]

/-- The number of a tile as a signed number. -/
theorem toInt_toInt8 (number : UInt8) :
    number.toInt8.toInt = if bit number 7 then (number.toNat : Int) - 256 else number.toNat := by
  have hlt := number.toNat_lt
  rw [← Int8.toInt_toBitVec, UInt8.toBitVec_toInt8, BitVec.toInt_eq_toNat_cond,
    UInt8.toNat_toBitVec, bit, Nat.testBit_eq_decide_div_mod_eq]
  simp only [decide_eq_true_eq]
  split <;> split <;> omega

theorem tileStart_eq (number : UInt8) :
    memory.tileStart number = LcdControl.tileAddress memory.lcdControl number := by
  have hlt := number.toNat_lt
  unfold tileStart LcdControl.tileAddress
  rw [toInt_toInt8]
  -- the tiles go up from 0x8000, or to both sides of 0x9000 by their numbers as signed ones
  cases bit memory.lcdControl 4 with
  | true => rfl
  | false =>
      cases bit number 7 with
      | true =>
          simp
          omega
      | false =>
          simp
          omega

theorem planeColour_eq (map : Nat) {x y : Nat} (hx : x < 256) (hy : y < 256) :
    memory.planeColour map x y = (memory.plane map).colour x y := by
  have hblock := memory.colour_plane map (a := x / 8) (b := y / 8) (i := x % 8) (j := y % 8)
    (by omega) (by omega) (by omega) (by omega)
  rw [Nat.div_add_mod, Nat.div_add_mod, tileStart_eq] at hblock
  rw [hblock, planeColour, tileColour, Nat.mul_comm (y / 8), Nat.mul_comm (y % 8)]

/-! ## What lies below the objects -/

/-- Whether the window is shown on a line. -/
def ShowsWindow (line : Nat) : Prop :=
  bit memory.lcdControl 5 = true ∧ (memory.read Address.windowY).toNat ≤ line ∧
    (memory.read Address.windowX).toNat ≤ 166

instance (line : Nat) : Decidable (memory.ShowsWindow line) :=
  inferInstanceAs (Decidable (_ ∧ _ ∧ _))

/-- The colour number below the objects: that of the window from its left edge on, seven columns
left of its register, and that of the scrolled background elsewhere. -/
def backdrop (windowLine : UInt8) (line x : Nat) : Nat :=
  let windowX := (memory.read Address.windowX).toNat
  if bit memory.lcdControl 0 = false then 0
  else if memory.ShowsWindow line ∧ windowX ≤ x + 7 then
    (memory.plane (if bit memory.lcdControl 6 then 0x9C00 else 0x9800)).colour
      (x + 7 - windowX) windowLine.toNat
  else
    (memory.plane (if bit memory.lcdControl 3 then 0x9C00 else 0x9800)).colour
      (x + (memory.read Address.scrollX).toNat) (line + (memory.read Address.scrollY).toNat)

theorem windowOn_iff (line : Nat) :
    memory.windowOn line = true ↔ bit memory.lcdControl 0 = true ∧ memory.ShowsWindow line := by
  unfold windowOn ShowsWindow LcdControl.backgroundEnabled LcdControl.windowEnabled
  rw [Bool.and_eq_true, Bool.and_eq_true, Bool.and_eq_true, decide_eq_true_iff,
    decide_eq_true_iff, UInt8.le_iff_toNat_le, and_assoc, and_assoc]
  rfl

theorem backgroundColour_eq (line x : Nat) :
    memory.backgroundColour line x =
      (memory.plane (if bit memory.lcdControl 3 then 0x9C00 else 0x9800)).colour
        (x + (memory.read Address.scrollX).toNat) (line + (memory.read Address.scrollY).toNat) := by
  unfold backgroundColour LcdControl.backgroundMap
  dsimp only
  rw [planeColour_eq _ _ (Nat.mod_lt _ (by decide)) (Nat.mod_lt _ (by decide)), Plane.colour_mod]

theorem windowColour_eq (windowLine : UInt8) {x : Nat} (hx : x < Frame.width) :
    memory.windowColour windowLine x =
      (memory.plane (if bit memory.lcdControl 6 then 0x9C00 else 0x9800)).colour
        (x + 7 - (memory.read Address.windowX).toNat) windowLine.toNat := by
  have hwidth : Frame.width = 160 := rfl
  exact memory.planeColour_eq _ (by omega) windowLine.toNat_lt

theorem underlay_eq (windowLine : UInt8) (line : Nat) {x : Nat} (hx : x < Frame.width) :
    memory.underlay windowLine line x = memory.backdrop windowLine line x := by
  unfold underlay backdrop LcdControl.backgroundEnabled
  rw [windowColour_eq memory windowLine hx, backgroundColour_eq]
  cases hlayers : bit memory.lcdControl 0 with
  | false => rfl
  | true =>
      have hwindow : (memory.windowOn line &&
          decide ((memory.read Address.windowX).toNat ≤ x + 7)) = true ↔
            memory.ShowsWindow line ∧ (memory.read Address.windowX).toNat ≤ x + 7 := by
        rw [Bool.and_eq_true, decide_eq_true_iff, windowOn_iff, hlayers]
        simp only [true_and]
      simp only [hwindow, if_true, if_false, Bool.true_eq_false]

theorem getElem_row (windowLine : UInt8) (line : Nat) {x : Nat} (hx : x < Frame.width) :
    (memory.row windowLine line)[x] =
      memory.pixel (memory.spritesOn line) windowLine line x :=
  Vector.getElem_ofFn hx

/-- Without objects a pixel shows what lies below them. -/
theorem pixel_nil (windowLine : UInt8) (line x : Nat) :
    memory.pixel [] windowLine line x =
      shade (memory.read Address.backgroundPalette) (memory.underlay windowLine line x) :=
  rfl

end Memory

namespace Ppu

variable (ppu : Ppu) (memory : Memory)

theorem getElem_drawRow {line : Nat} (hline : line < Frame.height) {x : Nat}
    (hx : x < Frame.width) :
    (ppu.drawRow memory line).frame[line][x] =
      memory.pixel (memory.spritesOn line) ppu.windowLine line x := by
  simp only [frame_drawRow ppu memory hline, Vector.getElem_set_self, memory.getElem_row _ _ hx]

/-- **Below the objects lie the window and the background.**  Without objects every pixel of a line
takes the shade of its colour number in the decoded planes, whatever the frame held before; the
other lines and the rest of the video unit keep their state, but for the window line, which is
counted if the window is shown.  Below the screen nothing is drawn. -/
theorem drawRow_of_no_objects (hobjects : bit memory.lcdControl 1 = false) (line : Nat) :
    (∀ hline : line < Frame.height,
      (∀ x (hx : x < Frame.width), (ppu.drawRow memory line).frame[line][x] =
        shade (memory.read Address.backgroundPalette) (memory.backdrop ppu.windowLine line x)) ∧
      (∀ other (hother : other < Frame.height), other ≠ line →
        (ppu.drawRow memory line).frame[other] = ppu.frame[other]) ∧
      (ppu.drawRow memory line).windowLine =
        (if bit memory.lcdControl 0 = true ∧ memory.ShowsWindow line then ppu.windowLine + 1
          else ppu.windowLine) ∧
      (ppu.drawRow memory line).dot = ppu.dot ∧ (ppu.drawRow memory line).mode = ppu.mode ∧
        (ppu.drawRow memory line).lcdOn = ppu.lcdOn) ∧
    (Frame.height ≤ line → ppu.drawRow memory line = ppu) := by
  refine ⟨fun hline => ⟨fun x hx => ?_, fun other hother hne => ?_, ?_, ?_⟩,
    drawRow_of_le ppu memory⟩
  · have hnone : memory.spritesOn line = [] := by
      rw [Memory.spritesOn, LcdControl.objectsEnabled, hobjects]
      rfl
    rw [getElem_drawRow ppu memory hline hx, hnone, memory.pixel_nil, memory.underlay_eq _ _ hx]
  · simp only [frame_drawRow ppu memory hline]
    exact Vector.getElem_set_ne _ _ hne.symm
  · rw [windowLine_drawRow ppu memory hline]
    simp only [memory.windowOn_iff]
  · exact ⟨dot_drawRow .., mode_drawRow .., lcdOn_drawRow ..⟩

/-- A memory without objects in which the background is scrolled over its right edge and the window
covers the right half of the screen, both with signed tile numbers. -/
def scrolledMemory : Memory :=
  [⟨Address.lcdControl, 0xE1⟩, ⟨Address.scrollX, 250⟩, ⟨Address.scrollY, 5⟩,
    ⟨Address.windowX, 87⟩, ⟨Address.backgroundPalette, 0xE4⟩, ⟨0x983F, 0xFF⟩, ⟨0x8FF1, 0x20⟩,
    ⟨0x9C00, 0x80⟩, ⟨0x8800, 0x80⟩].foldl
      (fun memory (w : Write) => memory.store w.address w.value) .blank

theorem read_scrolledMemory (address : UInt16) :
    scrolledMemory.read address =
      if address = 0x8800 then 0x80 else if address = 0x9C00 then 0x80
      else if address = 0x8FF1 then 0x20 else if address = 0x983F then 0xFF
      else if address = Address.backgroundPalette then 0xE4
      else if address = Address.windowX then 87 else if address = Address.scrollY then 5
      else if address = Address.scrollX then 250
      else if address = Address.lcdControl then 0xE1 else 0 := by
  simp only [scrolledMemory, List.foldl_cons, List.foldl_nil, Memory.read_store, Memory.read_blank,
    eq_comm]

/-- The left edge of line 3 shows the tile in the last column of the map's second row, the middle
the first tile of the window. -/
theorem drawRow_of_no_objects_scrolled :
    (bit scrolledMemory.lcdControl 1 = false ∧ 3 < Frame.height) ∧
      (powerOn.drawRow scrolledMemory 3).frame[3][0] = 2 ∧
      (powerOn.drawRow scrolledMemory 3).frame[3][80] = 1 ∧
      (powerOn.drawRow scrolledMemory 3).windowLine = 1 := by
  have hcontrol : scrolledMemory.lcdControl = 0xE1 := by
    rw [Memory.lcdControl, read_scrolledMemory]
    decide
  have hwindowX : scrolledMemory.read Address.windowX = 87 := by
    rw [read_scrolledMemory]
    decide
  have hshown : scrolledMemory.ShowsWindow 3 := by
    rw [Memory.ShowsWindow, hcontrol, hwindowX, read_scrolledMemory]
    decide
  have hobjects : bit scrolledMemory.lcdControl 1 = false := by
    rw [hcontrol]
    decide
  obtain ⟨hdrawn, -⟩ := drawRow_of_no_objects powerOn scrolledMemory hobjects 3
  obtain ⟨hpixels, -, hcounted, -⟩ := hdrawn (by decide)
  have hpalette : scrolledMemory.read Address.backgroundPalette = 0xE4 := by
    rw [read_scrolledMemory]
    decide
  have hscroll : scrolledMemory.read Address.scrollX = 250 ∧
      scrolledMemory.read Address.scrollY = 5 := by
    rw [read_scrolledMemory, read_scrolledMemory]
    decide
  -- column 250 is in the last column of tiles, and row 5 + 3 in the second row of them
  have hbackground : (scrolledMemory.plane 0x9800).colour (8 * 31 + 2) (8 * 1 + 0) = 2 := by
    rw [scrolledMemory.colour_plane 0x9800 (by decide) (by decide) (by decide) (by decide)]
    simp only [Memory.tileColour, Memory.tileStart, hcontrol, Memory.cell, read_scrolledMemory]
    decide
  have hwindow : (scrolledMemory.plane 0x9C00).colour (8 * 0 + 0) (8 * 0 + 0) = 1 := by
    rw [scrolledMemory.colour_plane 0x9C00 (by decide) (by decide) (by decide) (by decide)]
    simp only [Memory.tileColour, Memory.tileStart, hcontrol, Memory.cell, read_scrolledMemory]
    decide
  have hlayers : ¬ bit 0xE1 0 = false := by decide
  refine ⟨⟨hobjects, by decide⟩, ?_, ?_, ?_⟩
  · -- left of the window the background shows
    have hleft : ¬ (scrolledMemory.ShowsWindow 3 ∧ (87 : UInt8).toNat ≤ 0 + 7) := fun hcovered =>
      absurd hcovered.2 (by decide)
    have hcolour : scrolledMemory.backdrop powerOn.windowLine 3 0 = 2 := by
      rw [Memory.backdrop, hcontrol, hwindowX, hscroll.1, hscroll.2, if_neg hlayers, if_neg hleft]
      exact hbackground
    rw [hpixels 0 (by decide), hpalette, hcolour]
    rfl
  · -- the window begins in column 80, with its own first tile
    have hright : scrolledMemory.ShowsWindow 3 ∧ (87 : UInt8).toNat ≤ 80 + 7 := ⟨hshown, by decide⟩
    have hcolour : scrolledMemory.backdrop powerOn.windowLine 3 80 = 1 := by
      rw [Memory.backdrop, hcontrol, hwindowX, if_neg hlayers, if_pos hright]
      exact hwindow
    rw [hpixels 80 (by decide), hpalette, hcolour]
    rfl
  · rw [hcounted, hcontrol, if_pos ⟨by decide, hshown⟩]
    rfl

end Ppu

end GameBoy
