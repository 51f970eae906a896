import GameBoy.Video.Frame

/-!
# Frames on a terminal

A frame is drawn with half blocks: each character cell shows two pixels, the lower one in the
foreground colour and the upper one in the background colour.  The shades are taken from the
grey ramp that ends at colour 255, seven steps apart.
-/

namespace GameBoy.Frame

/-- The terminal colour of a shade. -/
def terminalColour (shade : UInt8) : Nat := 255 - 7 * shade.toNat

/-- The character cell of two pixels, one above the other. -/
def cellText (upper lower : UInt8) : String :=
  "\x1B[38;5;" ++ toString (terminalColour lower) ++ "m\x1B[48;5;" ++
    toString (terminalColour upper) ++ "m▄"

/-- The text of two rows of pixels. -/
def rowPairText (upper lower : Row) : String :=
  String.join (List.zipWith cellText upper.toList lower.toList) ++ "\x1B[0m\n"

/-- The text of rows of pixels, taken two by two. -/
def rowPairsText : List Row → String
  | upper :: lower :: rest => rowPairText upper lower ++ rowPairsText rest
  | _ => ""

/-- The text that draws a frame from the upper left corner on. -/
def terminalText (frame : Frame) : String := "\x1B[H" ++ rowPairsText frame.toList

end GameBoy.Frame
