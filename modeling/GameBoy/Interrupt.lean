/-!
# Interrupt sources

Each source owns one bit of the request and enable registers and one entry point in low memory.
The source with the lowest bit has the highest priority.
-/

namespace GameBoy

inductive Interrupt
  | vblank | lcdStat | timer | serial | joypad
  deriving DecidableEq, Repr

namespace Interrupt

/-- The sources from the highest priority to the lowest. -/
def all : List Interrupt := [vblank, lcdStat, timer, serial, joypad]

/-- The position of the source's bit in the request and enable registers. -/
def index : Interrupt → Nat
  | vblank => 0
  | lcdStat => 1
  | timer => 2
  | serial => 3
  | joypad => 4

def mask : Interrupt → UInt8
  | vblank => 0x01
  | lcdStat => 0x02
  | timer => 0x04
  | serial => 0x08
  | joypad => 0x10

/-- The address at which the source's handler starts. -/
def vector : Interrupt → UInt16
  | vblank => 0x40
  | lcdStat => 0x48
  | timer => 0x50
  | serial => 0x58
  | joypad => 0x60

def name : Interrupt → String
  | vblank => "VBlank"
  | lcdStat => "LcdStat"
  | timer => "Timer"
  | serial => "Serial"
  | joypad => "Joypad"

/-- The source of highest priority among the set bits of `pending`. -/
def highest? (pending : UInt8) : Option Interrupt :=
  all.find? fun source => pending &&& source.mask != 0

end Interrupt

end GameBoy
