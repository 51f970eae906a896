import GameBoy.Video.Sprite

/-!
# Frames

A frame is 144 rows of 160 shades, of which zero is the lightest.  `Memory.row` is the row that
the video memory and registers describe.
-/

namespace GameBoy

abbrev Frame.width : Nat := 160

abbrev Frame.height : Nat := 144

/-- The shades of a line, from left to right. -/
abbrev Row := Vector UInt8 Frame.width

/-- The rows of a picture, from top to bottom. -/
abbrev Frame := Vector Row Frame.height

namespace Frame

def blank : Frame := .replicate height (.replicate width 0)

/-- The colours of the four shades, as red, green and blue. -/
def palette : List (List UInt8) :=
  [[0xE0, 0xF8, 0xD0], [0x88, 0xC0, 0x70], [0x34, 0x68, 0x56], [0x08, 0x18, 0x20]]

/-- The opaque colour of a shade, as red, green, blue and opacity. -/
def rgba (shade : UInt8) : List UInt8 := palette.getD (shade.toNat % 4) [] ++ [0xFF]

/-- The shades of all pixels, row after row. -/
def pixels (frame : Frame) : List UInt8 := (frame.toList.map Vector.toList).flatten

/-- The frame as colours, four bytes to a pixel. -/
def toRgba (frame : Frame) : List UInt8 := frame.pixels.flatMap rgba

end Frame

namespace Memory

/-- The shade of a pixel, given the sprites of its line and the number of the window's line. -/
def pixel (memory : Memory) (sprites : List Sprite) (windowLine : UInt8) (line x : Nat) : UInt8 :=
  let height := LcdControl.objectHeight memory.lcdControl
  let under := memory.underlay windowLine line x
  let underShade := shade (memory.read Address.backgroundPalette) under
  match sprites.find? fun sprite => sprite.colour memory height line x != 0 with
  | none => underShade
  | some sprite =>
    if sprite.isBehind && under != 0 then underShade
    else memory.spriteShade sprite (sprite.colour memory height line x)

/-- The row that memory describes, given the number of the window's line. -/
def row (memory : Memory) (windowLine : UInt8) (line : Nat) : Row :=
  let sprites := memory.spritesOn line
  .ofFn fun x => memory.pixel sprites windowLine line x.val

end Memory

end GameBoy
