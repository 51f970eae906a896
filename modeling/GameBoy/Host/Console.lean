import GameBoy.Host.Basic
import GameBoy.Host.Disk
import GameBoy.Host.Logger

/-!
# A host as a value

`Console` collects what a session writes: the text on the standard output, the text on the
standard error output, and the log, which goes to a file once one is opened and to the standard
error output before.  What stands in the log is up to a logger.
-/

namespace GameBoy

structure Console where
  disk : Disk
  /-- The place of the log file, if one is open. -/
  logFile : Option Place := none
  /-- The texts written to the log file, oldest first. -/
  logTexts : Array String := #[]
  output : String := ""
  /-- The texts written to the standard error output, oldest first. -/
  errorTexts : Array String := #[]

namespace Console

/-- The text on the standard error output. -/
def errors (console : Console) : String := String.join console.errorTexts.toList

/-- The text of the log file. -/
def log (console : Console) : String := String.join console.logTexts.toList

def writeError (console : Console) (text : String) : Console :=
  { console with errorTexts := console.errorTexts.push text }

def writeLog (console : Console) (text : String) : Console :=
  match console.logFile with
  | none => console.writeError text
  | some _ => { console with logTexts := console.logTexts.push text }

def writeOutput (console : Console) (text : String) : Console :=
  { console with output := console.output ++ text }

/-- A console whose log has taken an entry. -/
def record (logger : Logger) (console : Console) (entry : Entry) : Console :=
  match logger entry with
  | none => console
  | some text => console.writeLog text

/-- The operations of a host on a console with a logger. -/
def hostWith (logger : Logger) : Host (StateM Console) where
  openLog path := do
    let console ← get
    match console.disk.create path with
    | .error failure => pure (.error failure)
    | .ok (disk, place) =>
      set { console with disk, logFile := some place, logTexts := #[] }
      pure (.ok ())
  readFile path := do
    let console ← get
    pure (console.disk.read path)
  log entry := modify (·.record logger entry)
  draw text := modify (·.writeOutput text)
  print text := modify (·.writeOutput text)
  complain line := modify (·.writeError (line ++ "\n"))

/-- The operations of a host on a console with the standard logger. -/
def host : Host (StateM Console) := hostWith .standard

/-- The files after a session, the log file among them. -/
def files (console : Console) : Disk :=
  match console.logFile with
  | none => console.disk
  | some place => console.disk.put place console.log.toUTF8

end Console

end GameBoy
