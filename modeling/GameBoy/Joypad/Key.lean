/-!
# Keys

The eight keys form two groups of four.  Each key pulls one of four lines low, and the lines are
shared by the groups.
-/

namespace GameBoy

/-- The two groups of keys that software can select. -/
inductive KeyGroup
  | buttons | directions
  deriving DecidableEq, Repr

inductive Key
  | a | b | select | start
  | right | left | up | down
  deriving DecidableEq, Repr

namespace Key

def group : Key → KeyGroup
  | a | b | select | start => .buttons
  | right | left | up | down => .directions

/-- The key's line, as a position in the low nibble of the joypad register. -/
def line : Key → Nat
  | a | right => 0
  | b | left => 1
  | select | up => 2
  | start | down => 3

/-- The key's line as a bit of the joypad register. -/
def mask (key : Key) : UInt8 := 1 <<< UInt8.ofNat key.line

def name : Key → String
  | a => "A"
  | b => "B"
  | select => "Select"
  | start => "Start"
  | right => "Right"
  | left => "Left"
  | up => "Up"
  | down => "Down"

end Key

end GameBoy
