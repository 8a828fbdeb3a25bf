/-
**A set of files.**

The files under a working directory, as far as a program sees them: it reads a file as text and
writes one. Directories are there as far as there are files in them.

* `FileSet.find` walks along a path. What it goes through has to be a directory, `..` leads to the
  directory above, and a path that ends in a slash has to end in a directory;
* `FileSet.readText` and `FileSet.writeText` read and write a file, or say what stands against it.
-/

import InfoModel.Files.Path

namespace InfoModel

/-- Why a file cannot be read or written. -/
inductive FileFault where
  | notFound
  | notDirectory
  | isDirectory
  | nameTooLong
  /-- The path has a character U+0000. -/
  | nulInPath
  /-- The bytes of the file are no UTF-8 text. -/
  | notText
  /-- Anything else, as the system reports it. -/
  | other (report : String)
deriving DecidableEq

/-- The report on a fault. -/
def FileFault.message : FileFault → String
  | .notFound => "No such file or directory (os error 2)"
  | .notDirectory => "Not a directory (os error 20)"
  | .isDirectory => "Is a directory (os error 21)"
  | .nameTooLong => "File name too long (os error 36)"
  | .nulInPath => "file name contained an unexpected NUL byte"
  | .notText => "stream did not contain valid UTF-8"
  | .other report => report

/-- Where a file or directory is: the names on the way to it from the working directory, or from the
root, which goes by the name `/`. -/
abbrev Place := List String

/-- The directory above a place. Above the working directory it is written out with `..`. -/
def Place.above (place : Place) : Place :=
  match place.getLast? with
  | none => [".."]
  | some ".." => place ++ [".."]
  | some "/" => place
  | some _ => place.dropLast

/-- The directory is known to be there: the root, the working directory and all above it. -/
def Place.isGiven (place : Place) : Bool :=
  place == ["/"] || place.all (· == "..")

/-- Files by their places. -/
structure FileSet where
  files : List (Place × ByteArray) := []

/-- What stands at a place. -/
inductive FileSet.Entry where
  | file (content : ByteArray)
  | directory

namespace FileSet

instance : Inhabited FileSet := ⟨{}⟩

/-- The longest name that a file can have, in bytes. -/
def nameLimit : Nat := 255

/-- The length that no path reaches, in bytes. -/
def pathLimit : Nat := 4096

/-- What stands at a place. -/
def entry? (files : FileSet) (place : Place) : Option Entry :=
  match files.files.find? fun file => file.1 == place with
  | some (_, content) => some (.file content)
  | none =>
    if place.isGiven || files.files.any fun file => place.isPrefixOf file.1 then some .directory
    else none

/-- Goes along the parts of a path from a directory and gives the place where it ends. -/
def walk (files : FileSet) : Place → List String → Except FileFault Place
  | place, [] =>
    match files.entry? place with
    | some .directory => .ok place
    | some (.file _) => .error .notDirectory
    | none => .error .notFound
  | place, name :: rest =>
    match files.entry? place with
    | none => .error .notFound
    | some (.file _) => .error .notDirectory
    | some .directory =>
      if name = "" ∨ name = "." then walk files place rest
      else if name = ".." then walk files place.above rest
      else if nameLimit < name.utf8ByteSize then .error .nameTooLong
      else
        match rest with
        | [] => .ok (place ++ [name])
        | next :: rest => walk files (place ++ [name]) (next :: rest)

/-- The parts of a path between slashes, and the directory that it starts from. -/
def start (path : String) : Except FileFault (Place × List String) :=
  if path.toList.any fun char => char.toNat == 0 then .error .nulInPath
  else if path.isEmpty then .error .notFound
  else if pathLimit ≤ path.utf8ByteSize then .error .nameTooLong
  else
    let parts := (Path.parts path.toList).map String.ofList
    .ok (if path.toList.head? = some '/' then ["/"] else [], parts)

/-- The place at the end of a path. -/
def find (files : FileSet) (path : String) : Except FileFault Place := do
  let (place, parts) ← start path
  files.walk place parts

/-- The text of a file. -/
def readText (files : FileSet) (path : String) : Except FileFault String := do
  match files.entry? (← files.find path) with
  | none => throw .notFound
  | some .directory => throw .isDirectory
  | some (.file content) =>
    match String.fromUTF8? content with
    | some text => return text
    | none => throw .notText

/-- Puts a file at a place, over an earlier one. -/
def put (files : FileSet) (place : Place) (content : ByteArray) : FileSet :=
  ⟨files.files.filter (fun file => file.1 != place) ++ [(place, content)]⟩

/-- The path ends in a slash. -/
def endsInSlash (path : String) : Bool :=
  path.toList.getLast? = some '/'

/-- Where a file with this path can be written. A path that ends in a slash names no file, even
where no directory of the name is. -/
def target (files : FileSet) (path : String) : Except FileFault Place := do
  let (place, parts) ← start path
  if endsInSlash path then
    match files.walk place ((parts.reverse.dropWhile (· == "")).reverse) with
    | .ok _ => throw .isDirectory
    | .error fault => throw fault
  else files.walk place parts

/-- Writes a text to a file, over what was in it. -/
def writeText (files : FileSet) (path text : String) : Except FileFault FileSet := do
  let place ← files.target path
  match files.entry? place with
  | some .directory => throw .isDirectory
  | _ => return files.put place text.toUTF8

/-- The files of names and contents; directories on the way are made. -/
def ofList (contents : List (String × ByteArray)) : FileSet :=
  contents.foldl (fun files (name, content) => files.put (Path.names name) content) {}

end FileSet

end InfoModel
