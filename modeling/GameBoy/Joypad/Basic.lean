import GameBoy.Joypad.Key
import GameBoy.Word

/-!
# The joypad

All lines are active low: a zero bit is a pressed key, or a selected group.  Software selects the
groups it wants to see, and reads the lines on which some key of a selected group is down.
-/

namespace GameBoy

structure Joypad where
  /-- The lines of the buttons, in the low nibble. -/
  buttons : UInt8
  /-- The lines of the directions, in the low nibble. -/
  directions : UInt8
  /-- The select bits as last written. -/
  select : UInt8
  deriving DecidableEq, Repr

namespace Joypad

/-- The select bit of a group. -/
def selectBit : KeyGroup → Nat
  | .directions => 4
  | .buttons => 5

/-- Nothing pressed and no group selected. -/
def idle : Joypad where
  buttons := 0x0F
  directions := 0x0F
  select := 0x30

def lines (joypad : Joypad) : KeyGroup → UInt8
  | .buttons => joypad.buttons
  | .directions => joypad.directions

def setLines (joypad : Joypad) (lines : UInt8) : KeyGroup → Joypad
  | .buttons => { joypad with buttons := lines }
  | .directions => { joypad with directions := lines }

def isSelected (joypad : Joypad) (group : KeyGroup) : Bool :=
  !bit joypad.select (selectBit group)

/-- Keeps the select bits of a byte. -/
def writeSelect (joypad : Joypad) (value : UInt8) : Joypad :=
  { joypad with select := value &&& 0x30 }

/-- The byte that software reads. -/
def register (joypad : Joypad) : UInt8 :=
  let visible (group : KeyGroup) : UInt8 :=
    if joypad.isSelected group then joypad.lines group else 0x0F
  0xC0 ||| joypad.select ||| (0x0F &&& visible .directions &&& visible .buttons)

/-- Pulls the key's line low. -/
def press (joypad : Joypad) (key : Key) : Joypad :=
  joypad.setLines (joypad.lines key.group &&& ~~~key.mask) key.group

/-- Lets the key's line go high. -/
def release (joypad : Joypad) (key : Key) : Joypad :=
  joypad.setLines (joypad.lines key.group ||| key.mask) key.group

/-- Whether pressing the key now asks for an interrupt: it is up, and its group is selected. -/
def pressAlerts (joypad : Joypad) (key : Key) : Bool :=
  bit (joypad.lines key.group) key.line && joypad.isSelected key.group

end Joypad

end GameBoy
