/-
**Paths of files.**

A path is a text of names between slashes. `.` names a directory itself and `..` the one above it.

* `Path.fileName?` is the last name of a path, unless the path ends in the root or in `..`;
* `Path.extension?` and `Path.stem?` split that name at its last dot. A name without a dot, or with
  a single dot in front, is all stem.
-/

namespace InfoModel.Path

/-- The parts of a text between slashes. -/
def parts : List Char → List (List Char)
  | [] => [[]]
  | '/' :: rest => [] :: parts rest
  | char :: rest =>
    match parts rest with
    | [] => [[char]]
    | first :: others => (char :: first) :: others

/-- The names that a path goes through, without empty parts and parts that stay where they are. -/
def names (path : String) : List String :=
  ((parts path.toList).filter fun part => part != [] && part != ['.']).map String.ofList

/-- The last name of a path, if it ends in a name. -/
def fileName? (path : String) : Option String :=
  match (names path).getLast? with
  | some ".." => none
  | other => other

/-- A name before and after its last dot, if both parts count: a dot in front makes no extension. -/
def splitName? (name : String) : Option (String × String) :=
  let reversed := name.toList.reverse
  let behind := (reversed.takeWhile (· != '.')).reverse
  match (reversed.dropWhile (· != '.')).reverse.dropLast with
  | [] => none
  | front => some (String.ofList front, String.ofList behind)

/-- The extension of a path's last name. -/
def extension? (path : String) : Option String := do
  let (_, behind) ← splitName? (← fileName? path)
  return behind

/-- The last name of a path without its extension. -/
def stem? (path : String) : Option String := do
  let name ← fileName? path
  match splitName? name with
  | some (front, _) => return front
  | none => return name

end InfoModel.Path
