import GameBoy.Host.Logger
import GameBoy.Session

/-!
# The command line

A host on the real files and the terminal.  Frames are drawn at the pace of the hardware.
-/

namespace GameBoy.CommandLine

/-- The nanoseconds between two frames. -/
def frameTime : Nat := 16742706

/-- The number of a refusal; some layers of the system give it with the opposite sign. -/
def errorNumber (code : UInt32) : Nat :=
  if code.toNat < UInt32.size / 2 then code.toNat else UInt32.size - code.toNat

/-- A refusal that is known by its number. -/
def systemError (code : UInt32) (details : String) : SystemError :=
  let known : List SystemError :=
    [.notFound, .permissionDenied, .notADirectory, .isADirectory, .nameTooLong]
  match known.find? (·.code = errorNumber code) with
  | some error => error
  | none => .unknown (errorNumber code) details

/-- An exception of the system as a failure. -/
def failureOf : IO.Error → Failure
  | .noFileOrDirectory _ code details | .permissionDenied _ code details
  | .inappropriateType _ code details | .invalidArgument _ code details
  | .noSuchThing _ code details | .otherError code details => .system (systemError code details)
  | error => .custom .other (toString error)

/-- Runs an operation on files and turns an exception into a failure. -/
def attempt {α : Type} (operation : IO α) : IO (Except Failure α) := do
  match ← operation.toBaseIO with
  | .ok value => pure (.ok value)
  | .error error => pure (.error (failureOf error))

/-- A host that keeps the log file and the time of the last frame in references. -/
def host (logFile : IO.Ref (Option IO.FS.Handle)) (lastFrame : IO.Ref Nat) : Host IO where
  openLog path := do
    match ← attempt (IO.FS.Handle.mk path .write) with
    | .error failure => pure (.error failure)
    | .ok handle =>
      logFile.set (some handle)
      pure (.ok ())
  readFile path := attempt (IO.FS.readBinFile path)
  log entry := do
    match Logger.standard entry, ← logFile.get with
    | none, _ => pure ()
    | some text, none => IO.eprint text
    | some text, some handle => handle.putStr text
  draw text := do
    IO.print text
    let elapsed := (← IO.monoNanosNow) - (← lastFrame.get)
    IO.sleep (UInt32.ofNat ((frameTime - elapsed) / 1000000))
    lastFrame.set (← IO.monoNanosNow)
  print text := IO.print text
  complain line := IO.eprintln line

end GameBoy.CommandLine

def main (arguments : List String) : IO UInt32 := do
  let logFile ← IO.mkRef none
  let lastFrame ← IO.mkRef (← IO.monoNanosNow)
  GameBoy.Session.main (GameBoy.CommandLine.host logFile lastFrame) arguments
