import GameBoy.Memory

/-!
# The video registers

`LcdControl` names the bits of the LCD control register, and the functions of `Memory` below read
the registers as the numbers that the scan conversion computes with.
-/

namespace GameBoy

/-! ## The bits of the control register -/

namespace LcdControl

def lcdEnabled (control : UInt8) : Bool := bit control 7

def windowEnabled (control : UInt8) : Bool := bit control 5

def objectsEnabled (control : UInt8) : Bool := bit control 1

/-- Whether the background and the window are drawn at all. -/
def backgroundEnabled (control : UInt8) : Bool := bit control 0

/-- The rows of an object. -/
def objectHeight (control : UInt8) : Nat := if bit control 2 then 16 else 8

/-- The first cell of the tile map of the window. -/
def windowMap (control : UInt8) : Nat := if bit control 6 then 0x9C00 else 0x9800

/-- The first cell of the tile map of the background. -/
def backgroundMap (control : UInt8) : Nat := if bit control 3 then 0x9C00 else 0x9800

/-- The first cell of a background tile.  Under bit 4 the tiles are numbered upwards from 0x8000;
otherwise the number is signed and counts from 0x9000. -/
def tileAddress (control tile : UInt8) : Nat :=
  if bit control 4 || bit tile 7 then 0x8000 + 16 * tile.toNat else 0x9000 + 16 * tile.toNat

end LcdControl

namespace Memory

/-- The cell at a number, modulo the size of memory. -/
def cell (memory : Memory) (address : Nat) : UInt8 := memory.read (UInt16.ofNat address)

def lcdControl (memory : Memory) : UInt8 := memory.read Address.lcdControl

/-- The number of the line being drawn. -/
def line (memory : Memory) : UInt8 := memory.read Address.line

def lcdStatus (memory : Memory) : UInt8 := memory.read Address.lcdStatus

end Memory

end GameBoy
