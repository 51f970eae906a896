/-!
# Options

The command line as a list of arguments.  Long options take their value from the next argument
or after an equals sign; an option still waiting for its value is settled as soon as the next
known option comes by, or at the end.  An argument that begins with a hyphen is never a value,
except the hyphen alone.
-/

namespace GameBoy

structure Options where
  imagePath : String
  logPath : Option String
  /-- After how many frames to stop. -/
  frames : Option Nat
  /-- Whether each frame is drawn on the terminal. -/
  display : Bool
  /-- How many lines of registers to log instead of playing frames. -/
  doctorLines : Option Nat
  deriving DecidableEq, Repr

/-- Why no options come out of a command line. -/
inductive UsageError
  | helpRequested
  | versionRequested
  | missingValue
  | malformedValue
  | repeatedOption
  | unexpectedValue
  | unknownArgument
  | missingImage
  deriving DecidableEq, Repr

namespace UsageError

/-- A request for information is a success. -/
def exitCode : UsageError → UInt32
  | helpRequested | versionRequested => 0
  | _ => 2

def message : UsageError → String
  | helpRequested =>
    "Usage: --load-rom <path> [--log-path <path>] [--frames <count>] [--display] " ++
      "[--debug-doctor <lines>]\n"
  | versionRequested => "dmg_core 0.1.0\n"
  | missingValue => "error: an option lacks its value"
  | malformedValue => "error: a value is malformed"
  | repeatedOption => "error: an option is given twice"
  | unexpectedValue => "error: an option that takes no value is given one"
  | unknownArgument => "error: unknown argument"
  | missingImage => "error: --load-rom is required"

end UsageError

namespace Options

/-! ## Values -/

/-- The greatest number an option can take. -/
def maxNumber : Nat := UInt64.size - 1

/-- A decimal number, with an optional plus sign. -/
def number? (text : String) : Option Nat :=
  let digits :=
    match text.toList with
    | '+' :: rest => rest
    | all => all
  if digits.isEmpty || !digits.all Char.isDigit then
    none
  else
    let value := digits.foldl (fun value c => 10 * value + (c.toNat - '0'.toNat)) 0
    if value ≤ maxNumber then some value else none

/-! ## Reading the arguments -/

/-- The options that take a value. -/
inductive ValueOption
  | imagePath | logPath | frames | doctorLines
  deriving DecidableEq, Repr

/-- The options read so far, and the one that waits for a value or for being settled. -/
structure Draft where
  imagePath : Option String := none
  logPath : Option String := none
  frames : Option Nat := none
  display : Bool := false
  doctorLines : Option Nat := none
  pending : Option (ValueOption × Option String) := none

namespace Draft

/-- A path that is given as a value. -/
def path (text : String) : Except UsageError String :=
  if text.isEmpty then .error .missingValue else .ok text

def number (text : String) : Except UsageError Nat :=
  match number? text with
  | some value => .ok value
  | none => .error .malformedValue

/-- An option that was given already is refused before its value is looked at. -/
def once {α : Type} (old : Option α) (value : Except UsageError α) :
    Except UsageError (Option α) :=
  if old.isSome then .error .repeatedOption else some <$> value

/-- Gives an option its value. -/
def assign (draft : Draft) (option : ValueOption) (text : String) : Except UsageError Draft :=
  match option with
  | .imagePath => return { draft with imagePath := ← once draft.imagePath (path text) }
  | .logPath => return { draft with logPath := ← once draft.logPath (path text) }
  | .frames => return { draft with frames := ← once draft.frames (number text) }
  | .doctorLines => return { draft with doctorLines := ← once draft.doctorLines (number text) }

/-- Settles the pending option. -/
def settle (draft : Draft) : Except UsageError Draft :=
  match draft.pending with
  | none => .ok draft
  | some (_, none) => .error .missingValue
  | some (option, some text) => { draft with pending := none }.assign option text

/-- Reads a long option, without its two hyphens, and the value attached to it. -/
def readLong (draft : Draft) (name : String) (attached : Option String) :
    Except UsageError Draft :=
  let takesValue (option : ValueOption) : Except UsageError Draft := do
    let draft ← draft.settle
    match attached with
    | none => .ok { draft with pending := some (option, none) }
    | some text => draft.assign option text
  let takesNone (next : Draft → Except UsageError Draft) : Except UsageError Draft :=
    if attached.isSome then .error .unexpectedValue else draft.settle >>= next
  match name with
  | "load-rom" => takesValue .imagePath
  | "log-path" => takesValue .logPath
  | "frames" => takesValue .frames
  | "debug-doctor" => takesValue .doctorLines
  | "display" =>
    takesNone fun draft =>
      if draft.display then .error .repeatedOption else .ok { draft with display := true }
  | "help" => takesNone fun _ => .error .helpRequested
  | "version" => takesNone fun _ => .error .versionRequested
  | _ => .error .unknownArgument

/-- Reads the first of a cluster of short options; all known ones end the reading. -/
def readShort (draft : Draft) (letter : Char) : Except UsageError Draft :=
  match letter with
  | 'h' => draft.settle >>= fun _ => .error .helpRequested
  | 'V' => draft.settle >>= fun _ => .error .versionRequested
  | _ => .error .unknownArgument

/-- Reads an argument that is no option. -/
def readPlain (draft : Draft) (text : String) : Except UsageError Draft :=
  match draft.pending with
  | some (option, none) => .ok { draft with pending := some (option, some text) }
  | _ => .error .unknownArgument

/-- Reads arguments in order; none may follow two hyphens alone. -/
def readAll (draft : Draft) : List String → Except UsageError Draft
  | [] => .ok draft
  | argument :: rest =>
    match argument.toList with
    | ['-', '-'] => if rest.isEmpty then .ok draft else .error .unknownArgument
    | '-' :: '-' :: long => do
      let name := long.takeWhile (· ≠ '=')
      let attached :=
        match long.dropWhile (· ≠ '=') with
        | [] => none
        | _ :: value => some (String.ofList value)
      (← draft.readLong (String.ofList name) attached).readAll rest
    | '-' :: letter :: _ => do (← draft.readShort letter).readAll rest
    | _ => do (← draft.readPlain argument).readAll rest

end Draft

/-- The options of a command line. -/
def parse (arguments : List String) : Except UsageError Options := do
  let draft ← ({} : Draft).readAll arguments
  let draft ← draft.settle
  match draft.imagePath with
  | none => .error .missingImage
  | some imagePath =>
    .ok
      { imagePath
        logPath := draft.logPath
        frames := draft.frames
        display := draft.display
        doctorLines := draft.doctorLines }

end Options

end GameBoy
