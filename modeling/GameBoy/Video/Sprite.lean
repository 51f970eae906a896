import GameBoy.Video.Background

/-!
# Objects

The object attribute table holds forty sprites.  On each line the first ten that cover it are
drawn.  Where several of them have a pixel, the one with the smallest X shows, and among equals
the earliest in the table; a sprite that lies behind the background still hides those after it.
-/

namespace GameBoy

/-- An entry of the object attribute table. -/
structure Sprite where
  /-- The line of its first row plus sixteen. -/
  y : UInt8
  /-- The column of its first pixel plus eight. -/
  x : UInt8
  tile : UInt8
  attributes : UInt8
  deriving DecidableEq, Repr

namespace Sprite

/-! ## Attributes -/

def isBehind (sprite : Sprite) : Bool := bit sprite.attributes 7

def flipsY (sprite : Sprite) : Bool := bit sprite.attributes 6

def flipsX (sprite : Sprite) : Bool := bit sprite.attributes 5

def usesSecondPalette (sprite : Sprite) : Bool := bit sprite.attributes 4

/-! ## Placement -/

/-- Whether a sprite of the given height covers a line. -/
def covers (sprite : Sprite) (height line : Nat) : Bool :=
  decide (sprite.y.toNat ≤ line + 16) && decide (line + 16 < sprite.y.toNat + height)

/-- Whether a sprite has a pixel in a column. -/
def spans (sprite : Sprite) (x : Nat) : Bool :=
  decide (sprite.x.toNat ≤ x + 8) && decide (x < sprite.x.toNat)

/-- The row of the sprite's tile on a line that it covers. -/
def tileRow (sprite : Sprite) (height line : Nat) : Nat :=
  let row := line + 16 - sprite.y.toNat
  if sprite.flipsY then height - 1 - row else row

/-- The first cell of the two bit planes of the sprite on a line that it covers.  A tall sprite
takes two tiles, the first of which has an even number. -/
def rowAddress (sprite : Sprite) (height line : Nat) : Nat :=
  let tile := if height = 16 then sprite.tile &&& 0xFE else sprite.tile
  0x8000 + 16 * tile.toNat + 2 * sprite.tileRow height line

/-- The colour number of the sprite at a place of the screen; zero is transparent. -/
def colour (sprite : Sprite) (memory : Memory) (height line x : Nat) : Nat :=
  if sprite.spans x then
    let column := x + 8 - sprite.x.toNat
    let row := sprite.rowAddress height line
    let position := if sprite.flipsX then column else 7 - column
    colourNumber (memory.cell row) (memory.cell (row + 1)) position
  else
    0

end Sprite

/-! ## The sprites of a line -/

namespace Memory

/-- Entry `i` of the object attribute table. -/
def sprite (memory : Memory) (i : Nat) : Sprite where
  y := memory.cell (0xFE00 + 4 * i)
  x := memory.cell (0xFE00 + 4 * i + 1)
  tile := memory.cell (0xFE00 + 4 * i + 2)
  attributes := memory.cell (0xFE00 + 4 * i + 3)

/-- The most sprites that are drawn on one line. -/
def spritesPerLine : Nat := 10

/-- The sprites drawn on a line, in the order of the table. -/
def chosenSprites (memory : Memory) (line : Nat) : List Sprite :=
  let height := LcdControl.objectHeight memory.lcdControl
  (((List.range 40).map memory.sprite).filter (·.covers height line)).take spritesPerLine

/-- The sprites drawn on a line, the foremost first. -/
def spritesOn (memory : Memory) (line : Nat) : List Sprite :=
  if LcdControl.objectsEnabled memory.lcdControl then
    (memory.chosenSprites line).mergeSort fun first second => first.x ≤ second.x
  else
    []

/-- The shade of a sprite's colour number. -/
def spriteShade (memory : Memory) (sprite : Sprite) (colour : Nat) : UInt8 :=
  let palette :=
    if sprite.usesSecondPalette then Address.objectPalette1 else Address.objectPalette0
  shade (memory.read palette) colour

end Memory

end GameBoy
