import GameBoy.Host.Failure
import GameBoy.Host.Path

/-!
# Files as a value

`Disk` holds the files and directories around a working directory.  Paths are resolved name by
name, and what a name is looked up in must be a directory.
-/

namespace GameBoy

/-- What can stand at a place of the disk. -/
inductive Node
  | file (content : ByteArray)
  | folder

/-- The names that lead from the working directory to a place; the names above it are "..", and
the root directory is called "/". -/
abbrev Place := List String

structure Disk where
  nodes : List (Place × Node)

namespace Disk

/-! ## Places -/

/-- The working directory, those above it and the root always exist, and so does a directory
that holds something. -/
def node? (disk : Disk) (place : Place) : Option Node :=
  if place.all (fun name => name == ".." || name == "/") then
    some .folder
  else
    match disk.nodes.lookup place with
    | some node => some node
    | none => if disk.nodes.any (place.isPrefixOf ·.1) then some .folder else none

/-- The directory above a place. -/
def parent (place : Place) : Place :=
  if place == ["/"] then place
  else if place.all (· == "..") then ".." :: place
  else place.dropLast

/-- The longest name in bytes. -/
def maxName : Nat := 255

/-- Requires a directory at a place. -/
def requireFolder (disk : Disk) (place : Place) : Except SystemError Unit :=
  match disk.node? place with
  | none => .error .notFound
  | some (.file _) => .error .notADirectory
  | some .folder => .ok ()

/-- Looks up names one after the other. -/
def walk (disk : Disk) (place : Place) : List String → Except SystemError Place
  | [] => .ok place
  | name :: rest => do
    disk.requireFolder place
    if Path.staysPut name then disk.walk place rest
    else if name == ".." then disk.walk (parent place) rest
    else if name.utf8ByteSize > maxName then .error .nameTooLong
    else disk.walk (place ++ [name]) rest

/-! ## Paths -/

/-- The longest path in bytes, the terminator included. -/
def maxPath : Nat := 4096

/-- The names of a path and the place where it starts. -/
def start (path : String) : Except Failure (Place × List String) :=
  if path.contains '\x00' then .error .nulInPath
  else if path.isEmpty then .error (.system .notFound)
  else if path.utf8ByteSize ≥ maxPath then .error (.system .nameTooLong)
  else .ok (if path.startsWith "/" then ["/"] else [], Path.names path)

def walkFrom (disk : Disk) (place : Place) (names : List String) : Except Failure Place :=
  (disk.walk place names).mapError .system

/-! ## Files -/

/-- The content of the file at a path. -/
def read (disk : Disk) (path : String) : Except Failure ByteArray := do
  let (place, names) ← start path
  match disk.node? (← disk.walkFrom place names) with
  | none => .error (.system .notFound)
  | some .folder => .error (.system .isADirectory)
  | some (.file content) => .ok content

/-- Puts a file at a place, over the one that was there. -/
def put (disk : Disk) (place : Place) (content : ByteArray) : Disk where
  nodes := (place, .file content) :: disk.nodes.filter (·.1 != place)

/-- Makes the file at a path empty, or makes an empty file there.  Returns its place. -/
def create (disk : Disk) (path : String) : Except Failure (Disk × Place) := do
  let (place, names) ← start path
  let trimmed := (names.reverse.dropWhile (· == "")).reverse
  match trimmed.getLast? with
  | none => .error (.system .isADirectory)
  | some name =>
    let directory ← disk.walkFrom place trimmed.dropLast
    (disk.requireFolder directory).mapError .system
    if name == "." || name == ".." || trimmed.length < names.length then
      .error (.system .isADirectory)
    else if name.utf8ByteSize > maxName then
      .error (.system .nameTooLong)
    else
      let target := directory ++ [name]
      match disk.node? target with
      | some .folder => .error (.system .isADirectory)
      | _ => .ok (disk.put target .empty, target)

end Disk

end GameBoy
