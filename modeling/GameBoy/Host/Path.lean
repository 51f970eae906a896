/-!
# Paths

A path is a list of names separated by slashes.  Empty names and the name "." stand for the
directory reached so far, and ".." for the one above it.
-/

namespace GameBoy.Path

/-- The names between the slashes. -/
def names (path : String) : List String := path.splitToList (· == '/')

/-- Whether a name stays in the directory reached so far. -/
def staysPut (name : String) : Bool := name == "" || name == "."

/-- The last name that means something, if it names a file. -/
def fileName? (path : String) : Option String :=
  match ((names path).filter (!staysPut ·)).getLast? with
  | some ".." => none
  | name => name

/-- What follows the last dot of the file name, unless the name begins with that dot. -/
def extension? (path : String) : Option String := do
  let name ← fileName? path
  let reversed := name.toList.reverse
  match reversed.dropWhile (· ≠ '.') with
  | _dot :: _first :: _ => some (String.ofList (reversed.takeWhile (· ≠ '.')).reverse)
  | _ => none

end GameBoy.Path
