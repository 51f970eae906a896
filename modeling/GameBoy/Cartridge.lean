import GameBoy.Host.Basic
import GameBoy.Host.Path
import GameBoy.Journal.Logged

/-!
# Cartridge images

An image is the content of a file with the extension "gb" in any case of letters.  Only the
extension is checked, and before the file is touched; an empty image is refused, and one that is
larger than the address space is loaded with a warning.
-/

namespace GameBoy

inductive LoadError
  | unreadable (failure : Failure)
  | missingExtension
  | invalidExtension (found : String)
  | emptyImage
  deriving DecidableEq, Repr

namespace Cartridge

def extension : String := "gb"

end Cartridge

namespace LoadError

def message : LoadError → String
  | unreadable failure => s!"I/O error: {failure.message}"
  | missingExtension => "ROM file has no extension"
  | invalidExtension found =>
    "Invalid ROM file extension: expected '" ++ Cartridge.extension ++ "', found '" ++ found ++
      "'"
  | emptyImage => "ROM file is empty"

/-- The failure behind an error, if there is one. -/
def cause? : LoadError → Option Failure
  | unreadable failure => some failure
  | _ => none

/-- The error as a failure of the whole program. -/
def toFailure : LoadError → Failure
  | unreadable failure => failure
  | error => .custom .invalidInput error.message

end LoadError

namespace Cartridge

def checkExtension (path : String) : Except LoadError Unit :=
  match Path.extension? path with
  | none => .error .missingExtension
  | some found =>
    if found.map Char.toLower == extension then .ok () else .error (.invalidExtension found)

/-- Accepts the content of a file as an image. -/
def accept (path : String) (image : ByteArray) : Except LoadError (Logged ByteArray) :=
  if image.isEmpty then
    .error .emptyImage
  else
    .ok
      { value := image
        journal :=
          (if image.size > 65536 then #[.oversizedImage image.size] else #[]) ++
            #[.imageRead path image.size] }

/-- Reads an image from a file of the host. -/
def read {m : Type → Type} [Monad m] (host : Host m) (path : String) :
    m (Except LoadError (Logged ByteArray)) :=
  match checkExtension path with
  | .error error => pure (.error error)
  | .ok () => do
    match ← host.readFile path with
    | .error failure => pure (.error (.unreadable failure))
    | .ok image => pure (accept path image)

end Cartridge

end GameBoy
