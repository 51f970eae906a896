import GameBoy.Text.Quoted

/-!
# Failures of the host

What can go wrong when files are opened and read.  `Failure.message` is the plain wording and
`Failure.report` the form in which a program that stops shows it.
-/

namespace GameBoy

/-- The sort of a failure. -/
inductive FailureKind
  | notFound | permissionDenied | notADirectory | isADirectory | invalidFilename
  | invalidInput | invalidData | other | uncategorized
  deriving DecidableEq, Repr

def FailureKind.name : FailureKind → String
  | notFound => "NotFound"
  | permissionDenied => "PermissionDenied"
  | notADirectory => "NotADirectory"
  | isADirectory => "IsADirectory"
  | invalidFilename => "InvalidFilename"
  | invalidInput => "InvalidInput"
  | invalidData => "InvalidData"
  | other => "Other"
  | uncategorized => "Uncategorized"

/-- A refusal of the operating system. -/
inductive SystemError
  | notFound | permissionDenied | notADirectory | isADirectory | nameTooLong
  | unknown (code : Nat) (message : String)
  deriving DecidableEq, Repr

namespace SystemError

/-- The number of the refusal. -/
def code : SystemError → Nat
  | notFound => 2
  | permissionDenied => 13
  | notADirectory => 20
  | isADirectory => 21
  | nameTooLong => 36
  | unknown code _ => code

def kind : SystemError → FailureKind
  | notFound => .notFound
  | permissionDenied => .permissionDenied
  | notADirectory => .notADirectory
  | isADirectory => .isADirectory
  | nameTooLong => .invalidFilename
  | unknown .. => .uncategorized

def message : SystemError → String
  | notFound => "No such file or directory"
  | permissionDenied => "Permission denied"
  | notADirectory => "Not a directory"
  | isADirectory => "Is a directory"
  | nameTooLong => "File name too long"
  | unknown _ message => message

end SystemError

inductive Failure
  | system (error : SystemError)
  /-- The path holds a NUL, which no file name can. -/
  | nulInPath
  | custom (kind : FailureKind) (message : String)
  deriving DecidableEq, Repr

namespace Failure

def kind : Failure → FailureKind
  | system error => error.kind
  | nulInPath => .invalidInput
  | custom kind _ => kind

def message : Failure → String
  | system error => s!"{error.message} (os error {error.code})"
  | nulInPath => "file name contained an unexpected NUL byte"
  | custom _ message => message

/-- The failure as a record with its fields. -/
def report : Failure → String
  | system error =>
    s!"Os \x7b code: {error.code}, kind: {error.kind.name}, " ++
      s!"message: {Quoted.text error.message} \x7d"
  | nulInPath =>
    s!"Error \x7b kind: {nulInPath.kind.name}, message: {Quoted.text nulInPath.message} \x7d"
  | custom kind message => s!"Custom \x7b kind: {kind.name}, error: {Quoted.text message} \x7d"

end Failure

end GameBoy
