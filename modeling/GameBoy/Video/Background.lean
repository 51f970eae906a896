import GameBoy.Video.Control

/-!
# Background and window

Both are planes of 256 by 256 colour numbers, described by a map of 32 by 32 tiles of 8 by 8
pixels.  The background wraps around under the scroll registers; the window covers it from its
left edge on, and counts its own lines.
-/

namespace GameBoy

/-! ## Colours -/

/-- The colour number of two bit planes at a bit position. -/
def colourNumber (low high : UInt8) (position : Nat) : Nat :=
  2 * (bit high position).toNat + (bit low position).toNat

/-- The shade that a palette gives to a colour number. -/
def shade (palette : UInt8) (colour : Nat) : UInt8 :=
  UInt8.ofNat (palette.toNat >>> (2 * colour) % 4)

namespace Memory

/-- The colour number at column `x` and row `y` of the plane of a tile map. -/
def planeColour (memory : Memory) (map x y : Nat) : Nat :=
  let tile := memory.cell (map + y / 8 * 32 + x / 8)
  let row := LcdControl.tileAddress memory.lcdControl tile + y % 8 * 2
  colourNumber (memory.cell row) (memory.cell (row + 1)) (7 - x % 8)

/-! ## The two layers of a line -/

/-- The colour number of the background at a place of the screen. -/
def backgroundColour (memory : Memory) (line x : Nat) : Nat :=
  let column := (x + (memory.read Address.scrollX).toNat) % 256
  let row := (line + (memory.read Address.scrollY).toNat) % 256
  memory.planeColour (LcdControl.backgroundMap memory.lcdControl) column row

/-- Whether the window covers some part of a line. -/
def windowOn (memory : Memory) (line : Nat) : Bool :=
  LcdControl.backgroundEnabled memory.lcdControl &&
    LcdControl.windowEnabled memory.lcdControl &&
    decide ((memory.read Address.windowY).toNat ≤ line) &&
    decide (memory.read Address.windowX ≤ 166)

/-- The colour number of the window at a column of the screen not left of its edge. -/
def windowColour (memory : Memory) (windowLine : UInt8) (x : Nat) : Nat :=
  let column := x + 7 - (memory.read Address.windowX).toNat
  memory.planeColour (LcdControl.windowMap memory.lcdControl) column windowLine.toNat

/-- The colour number below the objects at a place of the screen. -/
def underlay (memory : Memory) (windowLine : UInt8) (line x : Nat) : Nat :=
  if LcdControl.backgroundEnabled memory.lcdControl then
    if memory.windowOn line && decide ((memory.read Address.windowX).toNat ≤ x + 7) then
      memory.windowColour windowLine x
    else
      memory.backgroundColour line x
  else
    0

end Memory

end GameBoy
