import GameBoy.Proofs.Store
import GameBoy.Video.Frame

/-!
# Which cells a picture is made from

A row of the screen is converted from the tiles and tile maps, the object attribute table and
eight of the video registers.  `SamePicture` says that two memories agree on these cells, and
`SamePicture.row` that they then describe the same rows.  The line, status and compare registers
are not among them, so the conversion does not notice how far the video unit has come.
-/

namespace GameBoy

/-! ## Addresses of tiles -/

theorem LcdControl.le_tileAddress (control tile : UInt8) : 0x8000 ≤ tileAddress control tile := by
  unfold tileAddress
  split <;> omega

/-- All tiles of the background lie below the tile maps. -/
theorem LcdControl.tileAddress_lt (control tile : UInt8) :
    tileAddress control tile + 16 ≤ 0x9800 := by
  have htile := tile.toNat_lt
  unfold tileAddress
  split
  · omega
  · rename_i hsigned
    simp only [bit, Bool.or_eq_true, not_or, Nat.testBit_eq_decide_div_mod_eq,
      decide_eq_true_eq] at hsigned
    omega

theorem LcdControl.backgroundMap_mem (control : UInt8) :
    backgroundMap control ∈ [0x9800, 0x9C00] := by
  unfold backgroundMap
  split <;> decide

theorem LcdControl.windowMap_mem (control : UInt8) : windowMap control ∈ [0x9800, 0x9C00] := by
  unfold windowMap
  split <;> decide

theorem LcdControl.objectHeight_le (control : UInt8) : objectHeight control ≤ 16 := by
  unfold objectHeight
  split <;> decide

namespace Memory

/-! ## The cells of a picture -/

/-- The registers that say how the video memory is to be read. -/
def pictureRegisters : List UInt16 :=
  [Address.lcdControl, Address.scrollY, Address.scrollX, Address.backgroundPalette,
    Address.objectPalette0, Address.objectPalette1, Address.windowY, Address.windowX]

/-- The cells that a picture is made from. -/
def IsPictureCell (address : UInt16) : Prop :=
  (0x8000 ≤ address.toNat ∧ address.toNat < 0xA000) ∨
    (0xFE00 ≤ address.toNat ∧ address.toNat < 0xFEA0) ∨ address ∈ pictureRegisters

instance : DecidablePred IsPictureCell := fun address =>
  inferInstanceAs (Decidable (_ ∨ _ ∨ address ∈ pictureRegisters))

/-- Two memories that describe the same picture. -/
def SamePicture (first second : Memory) : Prop :=
  ∀ address, IsPictureCell address → first.read address = second.read address

variable {first second : Memory}

protected theorem SamePicture.refl (memory : Memory) : SamePicture memory memory :=
  fun _ _ => rfl

protected theorem SamePicture.trans {third : Memory} (h : SamePicture first second)
    (h' : SamePicture second third) : SamePicture first third :=
  fun address haddress => (h address haddress).trans (h' address haddress)

theorem SamePicture.register (h : SamePicture first second) (address : UInt16)
    (hmem : address ∈ pictureRegisters) : first.read address = second.read address :=
  h address (Or.inr (Or.inr hmem))

theorem SamePicture.lcdControl (h : SamePicture first second) :
    first.lcdControl = second.lcdControl :=
  h.register Address.lcdControl (by decide)

theorem SamePicture.cell (h : SamePicture first second) {n : Nat}
    (hn : (0x8000 ≤ n ∧ n < 0xA000) ∨ (0xFE00 ≤ n ∧ n < 0xFEA0)) :
    first.cell n = second.cell n := by
  have htoNat : (UInt16.ofNat n).toNat = n :=
    UInt16.toNat_ofNat_of_lt (by unfold UInt16.size; omega)
  apply h
  unfold IsPictureCell
  rw [htoNat]
  omega

/-! ## Background and window -/

theorem SamePicture.planeColour (h : SamePicture first second) {map x y : Nat}
    (hmap : map ∈ [0x9800, 0x9C00]) (hx : x < 256) (hy : y < 256) :
    first.planeColour map x y = second.planeColour map x y := by
  have hmap : 0x9800 ≤ map ∧ map ≤ 0x9C00 := by
    simp only [List.mem_cons, List.not_mem_nil, or_false] at hmap
    omega
  -- the map and the tiles lie in the cells on which the two agree
  have htile : first.cell (map + y / 8 * 32 + x / 8) = second.cell (map + y / 8 * 32 + x / 8) :=
    h.cell (by omega)
  have hrow := LcdControl.le_tileAddress second.lcdControl
    (second.cell (map + y / 8 * 32 + x / 8))
  have hrow' := LcdControl.tileAddress_lt second.lcdControl
    (second.cell (map + y / 8 * 32 + x / 8))
  unfold Memory.planeColour
  dsimp only
  rw [htile, h.lcdControl, h.cell (by omega), h.cell (by omega)]

theorem SamePicture.backgroundColour (h : SamePicture first second) (line x : Nat) :
    first.backgroundColour line x = second.backgroundColour line x := by
  unfold Memory.backgroundColour
  rw [h.lcdControl, h.register Address.scrollX (by decide),
    h.register Address.scrollY (by decide)]
  exact h.planeColour (LcdControl.backgroundMap_mem _) (Nat.mod_lt _ (by decide))
    (Nat.mod_lt _ (by decide))

theorem SamePicture.windowOn (h : SamePicture first second) (line : Nat) :
    first.windowOn line = second.windowOn line := by
  unfold Memory.windowOn
  rw [h.lcdControl, h.register Address.windowX (by decide),
    h.register Address.windowY (by decide)]

theorem SamePicture.windowColour (h : SamePicture first second) (windowLine : UInt8) {x : Nat}
    (hx : x < Frame.width) :
    first.windowColour windowLine x = second.windowColour windowLine x := by
  unfold Memory.windowColour
  rw [h.lcdControl, h.register Address.windowX (by decide)]
  have hwidth : Frame.width = 160 := rfl
  exact h.planeColour (LcdControl.windowMap_mem _) (by omega) windowLine.toNat_lt

theorem SamePicture.underlay (h : SamePicture first second) (windowLine : UInt8) (line : Nat)
    {x : Nat} (hx : x < Frame.width) :
    first.underlay windowLine line x = second.underlay windowLine line x := by
  unfold Memory.underlay
  rw [h.lcdControl, h.windowOn, h.register Address.windowX (by decide),
    h.windowColour windowLine hx, h.backgroundColour]

/-! ## Sprites -/

theorem SamePicture.sprite (h : SamePicture first second) {i : Nat} (hi : i < 40) :
    first.sprite i = second.sprite i := by
  unfold Memory.sprite
  rw [h.cell (by omega), h.cell (by omega), h.cell (by omega), h.cell (by omega)]

theorem SamePicture.spritesOn (h : SamePicture first second) (line : Nat) :
    first.spritesOn line = second.spritesOn line := by
  have htable : (List.range 40).map first.sprite = (List.range 40).map second.sprite :=
    List.map_congr_left fun i hi => h.sprite (List.mem_range.mp hi)
  unfold Memory.spritesOn chosenSprites
  rw [h.lcdControl, htable]

/-- The bit planes of a sprite lie in the video memory on every visible line. -/
theorem rowAddress_lt (sprite : Sprite) (control : UInt8) {line : Nat}
    (hline : line < Frame.height) :
    0x8000 ≤ sprite.rowAddress (LcdControl.objectHeight control) line ∧
      sprite.rowAddress (LcdControl.objectHeight control) line + 1 < 0xA000 := by
  have hheight := LcdControl.objectHeight_le control
  generalize LcdControl.objectHeight control = height at *
  have hscreen : Frame.height = 144 := rfl
  -- the row is a remainder, turned over within the height at most
  have hrow : sprite.tileRow height line < 256 := by
    unfold Sprite.tileRow
    dsimp only
    split <;> omega
  unfold Sprite.rowAddress
  dsimp only
  split
  · have := (sprite.tile &&& 0xFE).toNat_lt
    omega
  · have := sprite.tile.toNat_lt
    omega

theorem SamePicture.spriteColour (h : SamePicture first second) (sprite : Sprite)
    {line : Nat} (hline : line < Frame.height) (x : Nat) :
    sprite.colour first (LcdControl.objectHeight first.lcdControl) line x =
      sprite.colour second (LcdControl.objectHeight second.lcdControl) line x := by
  rw [h.lcdControl]
  have hrow := rowAddress_lt sprite second.lcdControl hline
  unfold Sprite.colour
  dsimp only
  rw [h.cell (by omega), h.cell (by omega)]

theorem SamePicture.spriteShade (h : SamePicture first second) (sprite : Sprite)
    (colour : Nat) : first.spriteShade sprite colour = second.spriteShade sprite colour := by
  unfold Memory.spriteShade
  dsimp only
  split <;> rw [h.register _ (by decide)]

/-! ## Rows -/

theorem SamePicture.pixel (h : SamePicture first second) (sprites : List Sprite)
    (windowLine : UInt8) {line x : Nat} (hline : line < Frame.height) (hx : x < Frame.width) :
    first.pixel sprites windowLine line x = second.pixel sprites windowLine line x := by
  unfold Memory.pixel
  dsimp only
  simp only [h.spriteColour _ hline, h.underlay windowLine line hx, h.spriteShade,
    h.register Address.backgroundPalette (by decide)]

/-- The rows of a picture depend on its cells only. -/
theorem SamePicture.row (h : SamePicture first second) (windowLine : UInt8) {line : Nat}
    (hline : line < Frame.height) : first.row windowLine line = second.row windowLine line := by
  unfold Memory.row
  dsimp only
  rw [h.spritesOn]
  congr 1
  funext x
  exact h.pixel _ windowLine hline x.isLt

/-- Where the window is not on, its line number does not matter. -/
theorem row_eq_of_not_windowOn {memory : Memory} {line : Nat} (h : memory.windowOn line = false)
    (windowLine other : UInt8) : memory.row windowLine line = memory.row other line := by
  unfold Memory.row Memory.pixel Memory.underlay
  simp only [h, Bool.false_and, Bool.false_eq_true, if_false]

end Memory

end GameBoy
