import GameBoy.Instruction.Basic
import GameBoy.Interrupt
import GameBoy.Joypad.Key
import GameBoy.Memory
import GameBoy.Text.Quoted

/-!
# Journal entries

What the machine reports while it runs.  An entry is a cause with its data; `severity` and
`message` say how it is shown.  The journal is output only: no part of the machine reads it.
-/

namespace GameBoy

/-- How much attention an entry asks for, most first. -/
inductive Severity
  | warn | info | debug | trace
  deriving DecidableEq, Repr

namespace Severity

/-- Larger for less severe entries. -/
def rank : Severity → Nat
  | warn => 0
  | info => 1
  | debug => 2
  | trace => 3

def name : Severity → String
  | warn => "WARN"
  | info => "INFO"
  | debug => "DEBUG"
  | trace => "TRACE"

end Severity

inductive Entry
  -- The processor.
  | wokeUp
  | servicing (source : Interrupt) (pc : UInt16)
  | executing (pc : UInt16) (instruction : Instruction)
  | illegalOpcode (opcode : UInt8) (pc : UInt16)
  | loneEscape (pc : UInt16)
  | immediateStore (pc : UInt16)
  | haltBug (pc : UInt16)
  -- The bus.
  | joypadSelect (write : Write)
  | dividerWrite (write : Write)
  | serialSent (write : Write) (byte : UInt8)
  | objectTransfer (write : Write)
  | imageLoaded (size : Nat)
  | requested (source : Interrupt)
  | pressed (key : Key)
  -- The timer and the video unit.
  | dividerReset
  | timerReload (modulo : UInt8)
  | lcdOff
  | lcdOn
  | lineAdvanced (old new : UInt8)
  -- The machine.
  | timerOverflow
  | frameDone (count : Nat)
  | frameMissing
  -- The session.
  | oversizedImage (size : Nat)
  | imageRead (path : String) (size : Nat)
  | registers (doctorLine : String)
  | stopped (frames : Nat)
  | serialOutput (text : String)
  deriving DecidableEq, Repr

namespace Entry

def severity : Entry → Severity
  | illegalOpcode .. | loneEscape _ | immediateStore _ | oversizedImage _ => .warn
  | imageRead .. | registers _ | stopped _ | serialOutput _ => .info
  | imageLoaded _ | lcdOff | lcdOn | frameDone _ => .debug
  | _ => .trace

/-- A write as the bus reports it, with a remark on its effect. -/
private def writeText (write : Write) (effect : String) : String :=
  s!"write_byte [0x{Hex.word write.address}] -> 0x{Hex.byte write.value} ({effect})"

def message : Entry → String
  | wokeUp => "cpu: leaving HALT"
  | servicing source pc => s!"cpu: servicing {source.name} from 0x{Hex.word pc}"
  | executing pc instruction => s!"0x{Hex.word pc}. {instruction.text}"
  | illegalOpcode opcode pc =>
    s!"Illegal opcode {Hex.byte opcode} at 0x{Hex.word pc}, treated as NOP"
  | loneEscape pc => s!"Prefix byte executed on its own at 0x{Hex.word pc}"
  | immediateStore pc => s!"Write to an immediate operand at 0x{Hex.word pc} ignored"
  | haltBug pc => s!"cpu: HALT bug at 0x{Hex.word pc}"
  | joypadSelect write => writeText write "JOYPAD SEL"
  | dividerWrite write => writeText write "DIV RESET"
  | serialSent write byte =>
    writeText write ("SERIAL LOG: '" ++ toString (Char.ofNat byte.toNat) ++ "'")
  | objectTransfer write => writeText write "DMA"
  | imageLoaded size =>
    s!"Loading ROM, memory_size: 65536, rom_size: {size}, copy_len: {min size 65536}"
  | requested source => s!"request_interrupt: {source.name}"
  | pressed key => s!"joypad: press {key.name}"
  | dividerReset => "timer: divider reset"
  | timerReload modulo => s!"timer: TIMA overflow, reload 0x{Hex.byte modulo}"
  | lcdOff => "ppu: LCD off"
  | lcdOn => "ppu: LCD on"
  | lineAdvanced old new => s!"ppu: LY {old} -> {new}"
  | timerOverflow => "emulator: timer overflow"
  | frameDone count => s!"emulator: frame {count} done"
  | frameMissing => "main_loop: no frame completed, LCD is off"
  | oversizedImage size =>
    s!"ROM is {size} bytes, only the first 65536 are addressable without a bank controller"
  | imageRead path size => s!"Loaded ROM {Quoted.text path} ({size} bytes)"
  | registers doctorLine => doctorLine
  | stopped frames => s!"Stopping after {frames} frames"
  | serialOutput text => s!"Serial output: {text}"

end Entry

end GameBoy
