import GameBoy.Bus
import GameBoy.Video.Frame

/-!
# The video unit

The video unit walks through 154 lines of 456 dots, of which the first 144 are drawn.  A visible
line begins with the object scan, goes on with drawing and ends with the horizontal blank; the
other lines are the vertical blank.  Its position is the line register together with `Ppu.dot`,
so software that writes the line register moves it.

A row is converted when its line begins, and the conversion reads memory only.
-/

namespace GameBoy

/-- What the video unit does, as the status register reports it. -/
inductive Mode
  | hblank | vblank | objectScan | drawing
  deriving DecidableEq, Repr

namespace Mode

def number : Mode → UInt8
  | hblank => 0
  | vblank => 1
  | objectScan => 2
  | drawing => 3

def name : Mode → String
  | hblank => "H-Blank"
  | vblank => "V-Blank"
  | objectScan => "OAM Scan"
  | drawing => "Drawing"

/-- The mode at a position. -/
def ofPosition (line : UInt8) (dot : Nat) : Mode :=
  if line ≥ 144 then vblank
  else if dot < 80 then objectScan
  else if dot < 252 then drawing
  else hblank

/-- The status bit that asks for an interrupt when the mode is entered by the position. -/
def alertBit : Mode → Option Nat
  | hblank => some 3
  | objectScan => some 5
  | vblank | drawing => none

end Mode

structure Ppu where
  /-- The position in the line. -/
  dot : Nat
  mode : Mode
  /-- Whether the display was on when the unit last ran. -/
  lcdOn : Bool
  /-- The number of lines of the window drawn in this frame. -/
  windowLine : UInt8
  frame : Frame

namespace Ppu

def dotsPerLine : Nat := 456

def powerOn : Ppu where
  dot := 0
  mode := .objectScan
  lcdOn := true
  windowLine := 0
  frame := .blank

/-! ## Status -/

/-- Writes a mode into the status register. -/
def storeMode (memory : Memory) (mode : Mode) : Memory :=
  memory.store Address.lcdStatus (memory.lcdStatus &&& 0xFC ||| mode.number)

/-- Requests a status interrupt if a bit of the status register asks for it. -/
def alert (memory : Memory) (statusBit : Nat) : Logged Memory :=
  if bit memory.lcdStatus statusBit then memory.request .lcdStat else pure memory

/-- Compares the line just entered with the line compare register: the coincidence bit says
whether they agree, and an agreement may ask for an interrupt. -/
def compareLine (memory : Memory) (line : UInt8) : Logged Memory :=
  let status := memory.lcdStatus
  if line = memory.read Address.lineCompare then
    alert (memory.store Address.lcdStatus (status ||| 0x04)) 6
  else
    pure (memory.store Address.lcdStatus (status &&& 0xFB))

/-! ## Drawing -/

/-- Converts one line; lines below the screen are none. -/
def drawRow (ppu : Ppu) (memory : Memory) (line : Nat) : Ppu :=
  if h : line < Frame.height then
    match ppu with
    | ⟨dot, mode, lcdOn, windowLine, frame⟩ =>
      { dot, mode, lcdOn
        windowLine := if memory.windowOn line then windowLine + 1 else windowLine
        frame := frame.set line (memory.row windowLine line) h }
  else
    ppu

/-! ## Advancing -/

/-- The video unit and memory in the middle of a run, and whether a frame has ended in it. -/
structure Run where
  ppu : Ppu
  memory : Memory
  frameDone : Bool

/-- The line after a line. -/
def lineAfter (line : UInt8) : UInt8 := if line ≥ 153 then 0 else line + 1

/-- Requests the interrupts of the vertical blank when it begins. -/
def announceVblank (memory : Memory) (line : UInt8) : Logged Memory :=
  if line = 144 then do
    let memory ← memory.request .vblank
    alert memory 4
  else
    pure memory

/-- Enters the next line, and draws it if it is visible. -/
def Run.nextLine (run : Run) : Logged Run := do
  match run with
  | ⟨ppu, memory, frameDone⟩ =>
    let old := memory.line
    let new := lineAfter old
    Logged.note (.lineAdvanced old new)
    let memory ← compareLine (memory.store Address.line new) new
    let memory ← announceVblank memory new
    let ppu := if new = 144 then { ppu with mode := .vblank } else ppu
    let ppu := if new = 0 then { ppu with windowLine := 0 } else ppu
    pure { ppu := ppu.drawRow memory new.toNat, memory, frameDone := frameDone || new == 0 }

/-- Brings the mode in line with the position. -/
def Run.updateMode (run : Run) : Logged Run := do
  match run with
  | ⟨ppu, memory, frameDone⟩ =>
    let mode := Mode.ofPosition memory.line ppu.dot
    let memory ←
      if mode = ppu.mode then pure memory
      else
        match mode.alertBit with
        | none => pure memory
        | some statusBit => alert memory statusBit
    pure { ppu := { ppu with mode }, memory := storeMode memory mode, frameDone }

/-- The next dot of a line at which the mode may change. -/
def boundary (dot : Nat) : Nat :=
  if dot < 80 then 80 else if dot < 252 then 252 else dotsPerLine

theorem lt_boundary {dot : Nat} (h : dot < dotsPerLine) : dot < boundary dot := by
  unfold boundary
  unfold dotsPerLine at *
  split
  · omega
  · split <;> omega

/-- Advances by dots that cross no boundary. -/
def Run.advance (run : Run) (dots : Nat) : Logged Run :=
  match run with
  | ⟨⟨dot, mode, lcdOn, windowLine, frame⟩, memory, frameDone⟩ =>
    if dot + dots < dotsPerLine then
      Run.updateMode ⟨⟨dot + dots, mode, lcdOn, windowLine, frame⟩, memory, frameDone⟩
    else do
      let run ← Run.nextLine
        ⟨⟨dot + dots - dotsPerLine, mode, lcdOn, windowLine, frame⟩, memory, frameDone⟩
      run.updateMode

/-- Advances by any number of dots, boundary by boundary. -/
def Run.walk (dots : Nat) (run : Run) : Logged Run :=
  if _ : 0 < dots ∧ run.ppu.dot < dotsPerLine then
    let chunk := min dots (boundary run.ppu.dot - run.ppu.dot)
    run.advance chunk >>= Run.walk (dots - chunk)
  else
    pure run
termination_by dots
decreasing_by
  rename_i inLine
  have := lt_boundary inLine.2
  omega

/-! ## Running -/

/-- The display goes dark and waits at the start of the first line. -/
def switchOff (ppu : Ppu) (memory : Memory) : Logged Run where
  value :=
    { ppu := { ppu with dot := 0, mode := .hblank, lcdOn := false }
      memory := storeMode (memory.store Address.line 0) .hblank
      frameDone := false }
  journal := if ppu.lcdOn then #[.lcdOff] else #[]

/-- The display starts afresh at the first line if it was dark. -/
def switchOn (ppu : Ppu) (memory : Memory) : Logged Run := do
  if ppu.lcdOn then
    pure { ppu, memory, frameDone := false }
  else
    Logged.note .lcdOn
    let ppu := { ppu with dot := 0, mode := .objectScan, lcdOn := true, windowLine := 0 }
    let memory ← compareLine (memory.store Address.line 0) 0
    pure { ppu, memory, frameDone := false }

/-- Runs the video unit for some clock cycles. -/
def run (ppu : Ppu) (memory : Memory) (cycles : Nat) : Logged Run :=
  if LcdControl.lcdEnabled memory.lcdControl then
    ppu.switchOn memory >>= Run.walk cycles
  else
    ppu.switchOff memory

/-! ## Text -/

/-- A summary of the state in four lines and a rule. -/
def text (ppu : Ppu) : String :=
  let dots := toString ppu.dot
  let padding := String.ofList (List.replicate (3 - dots.length) ' ')
  let display := if ppu.lcdOn then "on " else "off"
  s!"--- PPU State ---\nDOTS: {dots}{padding} | MODE: {ppu.mode.name}\n" ++
    s!"LCD:  {display}   | WINDOW LINE: {ppu.windowLine}\n" ++
    "-----------------"

end Ppu

end GameBoy
