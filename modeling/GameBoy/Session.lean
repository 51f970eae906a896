import GameBoy.Cartridge
import GameBoy.Cpu.Text
import GameBoy.Machine
import GameBoy.Options
import GameBoy.Text.Utf8
import GameBoy.Video.Terminal
import GameBoy.Width

/-!
# Sessions

A session reads an image and runs it, either frame by frame or, to compare with reference logs,
for a number of processor steps with the registers logged before each.  At the end it reports
what the program sent through the serial link.  All that is reported on the way goes to the log of
the host.
-/

namespace GameBoy.Session

variable {m : Type → Type} [Monad m]

/-- Sends the entries of a journal to the log. -/
def report (host : Host m) (journal : Array Entry) : m Unit := journal.toList.forM host.log

/-! ## The two ways to run -/

/-- Runs the processor and the timer for a number of steps. -/
def runSteps (host : Host m) : (steps : Nat) → Machine → m Machine
  | 0, machine => pure machine
  | steps + 1, machine => do
    report host #[.registers (machine.cpu.doctorLine machine.bus.memory)]
    let ⟨(machine, _), journal⟩ := machine.step
    report host journal
    runSteps host steps machine

/-- One frame: runs the machine and draws its picture if asked to. -/
def runFrame (host : Host m) (display : Bool) (machine : Machine) : m Machine := do
  let ⟨(machine, completed), journal⟩ := machine.runFrame
  report host (if completed then journal else journal.push .frameMissing)
  if display then
    host.draw machine.ppu.frame.terminalText
  pure machine

/-- Runs frames, with `counted` of them run before, until the count has reached the limit.  Without
a limit nothing ends the loop but the count, a word of 64 bits, and then no machine is left. -/
def playFrom (host : Host m) (options : Options) (counted : Nat) (machine : Machine) :
    m (Option Machine) := do
  let machine ← runFrame host options.display machine
  match _ : Width.sum? 64 counted 1 with
  | none => pure none
  | some frames =>
    if options.frames.any (· ≤ frames) then
      report host #[.stopped frames]
      pure (some machine)
    else
      playFrom host options frames machine
termination_by (1 <<< 64) - counted
decreasing_by
  obtain ⟨hroom, hframes⟩ := Width.sum?_eq_some_iff.mp ‹_›
  omega

/-- Runs frames up to the limit. -/
def play (host : Host m) (options : Options) (machine : Machine) : m (Option Machine) :=
  playFrom host options 0 machine

/-- Runs steps without the video unit, whose line register is held at 0x90. -/
def diagnose (host : Host m) (steps : Nat) (machine : Machine) : m Machine := do
  let ⟨bus, journal⟩ := machine.bus.write ⟨Address.line, 0x90⟩
  report host journal
  runSteps host steps { machine with bus }

/-! ## Sessions -/

/-- Reports the bytes sent through the serial link, if there are any. -/
def reportSerial (host : Host m) (machine : Machine) : m Unit :=
  if machine.bus.serial.isEmpty then
    pure ()
  else
    report host #[.serialOutput (Utf8.decode machine.bus.serial.toList)]

/-- Runs an image under the given options. -/
def runImage (host : Host m) (options : Options) (image : ByteArray) : m Unit := do
  let ⟨machine, journal⟩ := Machine.start image
  report host journal
  match options.doctorLines with
  | some steps =>
    let machine ← diagnose host steps machine
    reportSerial host machine
  | none =>
    match ← play host options machine with
    | some machine => reportSerial host machine
    | none => pure ()

/-- Sends the log where the options say. -/
def openLog (host : Host m) (options : Options) : m (Except Failure Unit) :=
  match options.logPath with
  | none => pure (.ok ())
  | some path => host.openLog path

/-- A whole session: the log is opened first, then the image is read and run. -/
def run (host : Host m) (options : Options) : m (Except Failure Unit) := do
  match ← openLog host options with
  | .error failure => pure (.error failure)
  | .ok () =>
    match ← Cartridge.read host options.imagePath with
    | .error error => pure (.error error.toFailure)
    | .ok ⟨image, journal⟩ =>
      report host journal
      runImage host options image
      pure (.ok ())

/-- The program: reads its arguments, runs a session and returns the exit code. -/
def main (host : Host m) (arguments : List String) : m UInt32 := do
  match Options.parse arguments with
  | .error error =>
    if error.exitCode = 0 then host.print error.message else host.complain error.message
    pure error.exitCode
  | .ok options =>
    match ← run host options with
    | .ok () => pure 0
    | .error failure =>
      host.complain ("Error: " ++ failure.report)
      pure 1

end GameBoy.Session
