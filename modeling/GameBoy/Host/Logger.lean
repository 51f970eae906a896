import GameBoy.Journal.Entry
import GameBoy.Text.ControlSequence

/-!
# Loggers

A logger decides which entries stand in the log, and in what form.  The standard one takes those of
severity `info` and above, and writes each as a line of plain text.
-/

namespace GameBoy

/-- Whether an entry goes to the log. -/
def Entry.isLogged (entry : Entry) : Bool := entry.severity.rank ≤ Severity.info.rank

/-- What a logger writes for an entry, if anything. -/
abbrev Logger := Entry → Option String

namespace Logger

/-- The line of an entry that is logged, without control sequences.  A sequence that the message
leaves open takes the end of the line with it. -/
def standard : Logger := fun entry =>
  if entry.isLogged then some (ControlSequence.strip (entry.message ++ "\n")) else none

end Logger

end GameBoy
