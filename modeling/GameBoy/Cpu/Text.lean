import GameBoy.Cpu.Basic
import GameBoy.Text.Hex

/-!
# The registers as text

`Cpu.doctorLine` is the line of the Game Boy Doctor log format: the registers and the four bytes
at the program counter.  `Cpu.text` is a shorter form that spells out the flags.
-/

namespace GameBoy.Cpu

/-- The byte registers but F, each with its letter. -/
def registersText (cpu : Cpu) : String :=
  s!"B:{Hex.byte cpu.b} C:{Hex.byte cpu.c} D:{Hex.byte cpu.d} E:{Hex.byte cpu.e} " ++
    s!"H:{Hex.byte cpu.h} L:{Hex.byte cpu.l} SP:{Hex.word cpu.sp}"

def doctorLine (cpu : Cpu) (memory : Memory) : String :=
  let ahead (distance : UInt16) := Hex.byte (memory.read (cpu.pc + distance))
  s!"A:{Hex.byte cpu.a} F:{Hex.byte cpu.f} {registersText cpu} PC:{Hex.word cpu.pc} " ++
    s!"PCMEM:{ahead 0},{ahead 1},{ahead 2},{ahead 3}"

def text (cpu : Cpu) : String :=
  s!"A:{Hex.byte cpu.a} {registersText cpu} Flags:{cpu.flags.text}"

end GameBoy.Cpu
