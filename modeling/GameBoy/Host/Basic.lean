import GameBoy.Host.Failure
import GameBoy.Journal.Entry

/-!
# The host

What a session asks of its surroundings, as operations in any monad: the command line runs it on
the real files and the terminal, and `Console` on a value.
-/

namespace GameBoy

structure Host (m : Type → Type) where
  /-- Makes an empty file and sends the log there from now on. -/
  openLog : (path : String) → m (Except Failure Unit)
  readFile : (path : String) → m (Except Failure ByteArray)
  /-- Takes an entry for the log. -/
  log : (entry : Entry) → m Unit
  /-- Shows a frame, and waits until the next one is due. -/
  draw : (text : String) → m Unit
  /-- Writes to the standard output. -/
  print : (text : String) → m Unit
  /-- Writes a line to the standard error output. -/
  complain : (line : String) → m Unit

end GameBoy
