/-!
# Files and directories

A `Disk` is a small model of a file system: files with their bytes, directories,
and paths that are walked from the working directory.  The errors are those that
a caller sees.  Names above the working directory can be walked but hold
nothing, and a path from the root starts above the working directory.

A path is refused as a text before anything is looked up; a name in it that is
too long is refused when the walk comes to it, so a name that is missing further
up is what a caller hears of first.
-/

namespace LogRows

/-- Why a file cannot be read or written. -/
inductive IoError where
  | notFound
  | notADirectory
  | isADirectory
  | alreadyExists
  /-- A path, or a name in it, is longer than a file system takes. -/
  | nameTooLong
  /-- A path holds the character that would end it for a file system. -/
  | nulInPath
  /-- The bytes of a file are not text. -/
  | notText
  /-- A cause that has no name here. -/
  | other (reason : String)
deriving DecidableEq

/-- The wording of an error. -/
def IoError.message : IoError → String
  | .notFound => "No such file or directory (os error 2)"
  | .notADirectory => "Not a directory (os error 20)"
  | .isADirectory => "Is a directory (os error 21)"
  | .alreadyExists => "File exists (os error 17)"
  | .nameTooLong => "File name too long (os error 36)"
  | .nulInPath => "file name contained an unexpected NUL byte"
  | .notText => "stream did not contain valid UTF-8"
  | .other reason => reason

/-- The names from the working directory to a place; `..` in front leads above it. -/
abbrev Place :=
  List String

/-- Files and directories below the working directory. -/
structure Disk where
  files : List (Place × List UInt8)
  directories : List Place

/-- What can be at a place. -/
inductive Entry where
  | file (content : List UInt8)
  | directory

namespace Disk

/-- The disk that holds nothing. -/
def empty : Disk :=
  ⟨[], []⟩

/-- What is at a place. -/
def entry? (disk : Disk) (place : Place) : Option Entry :=
  match disk.files.find? fun file => file.1 = place with
  | some file => some (.file file.2)
  | none =>
      if place.all (· == "..") || disk.directories.contains place then
        some .directory
      else
        none

/-- The greatest number of bytes in a name. -/
def nameLimit : Nat :=
  255

/-- The greatest number of bytes in a path. -/
def pathLimit : Nat :=
  4095

/-- What is wrong with a path before anything is looked up. -/
def pathFault? (path : String) : Option IoError :=
  if path.toList.contains '\x00' then
    some .nulInPath
  else if path = "" then
    some .notFound
  else if pathLimit < path.utf8ByteSize then
    some .nameTooLong
  else
    none

/-- The names of a path, as they are written; the root is a name above. -/
def names (path : String) : List String :=
  match (path.toList.splitOn '/').map String.ofList with
  | "" :: name :: rest => ".." :: name :: rest
  | names => names

/-- The place one name further on. -/
def follow (place : Place) (name : String) : Place :=
  if name = "" || name = "." then
    place
  else if name = ".." then
    if place.all (· == "..") then place ++ [".."] else place.dropLast
  else
    place ++ [name]

/-- Walk from a place, which has to be a directory before every name. -/
def walk (disk : Disk) : Place → List String → Except IoError Place
  | place, [] => .ok place
  | place, name :: rest =>
      match disk.entry? place with
      | some .directory =>
          if nameLimit < name.utf8ByteSize then
            .error .nameTooLong
          else
            disk.walk (follow place name) rest
      | some (.file _) => .error .notADirectory
      | none => .error .notFound

/-- Find what a path names. -/
def resolve (disk : Disk) (path : String) : Except IoError Entry :=
  match pathFault? path with
  | some fault => .error fault
  | none => do
      let place ← disk.walk [] (names path)
      match disk.entry? place with
      | some entry => .ok entry
      | none => .error .notFound

/-- Read the file that a path names. -/
def read (disk : Disk) (path : String) : Except IoError (List UInt8) :=
  match disk.resolve path with
  | .ok (.file content) => .ok content
  | .ok .directory => .error .isADirectory
  | .error error => .error error

/-- The disk with other bytes at a place. -/
def store (disk : Disk) (place : Place) (content : List UInt8) : Disk :=
  { disk with
    files := (place, content) :: disk.files.filter fun file => file.1 ≠ place }

/--
Write the file that a path names, making it if need be.  A path that ends in a
slash, in `.` or in `..` can only name a directory.
-/
def write (disk : Disk) (path : String) (content : List UInt8) : Except IoError Disk :=
  let slashes := (names path).reverse.takeWhile (· = "")
  match pathFault? path, (names path).reverse.dropWhile (· = "") with
  | some fault, _ => .error fault
  | none, [] => .error .isADirectory
  | none, last :: before => do
      let parent ← disk.walk [] before.reverse
      match disk.entry? parent with
      | none => .error .notFound
      | some (.file _) => .error .notADirectory
      | some .directory =>
          if !slashes.isEmpty || last = "." || last = ".." then
            .error .isADirectory
          else if nameLimit < last.utf8ByteSize then
            .error .nameTooLong
          else
            match disk.entry? (follow parent last) with
            | some .directory => .error .isADirectory
            | _ => .ok (disk.store (follow parent last) content)

/-- The names of a path that lead somewhere else; a leading `.` is kept. -/
def steps (path : String) : List String :=
  match (names path).filter (· ≠ "") with
  | "." :: rest => "." :: rest.filter (· ≠ ".")
  | steps => steps.filter (· ≠ ".")

/-- Make one directory, whose parent has to be there. -/
def makeDirectory (disk : Disk) (steps : List String) : Except IoError Disk :=
  match pathFault? ("/".intercalate steps) with
  | some fault => .error fault
  | none => do
      let place ← disk.walk [] steps
      match disk.entry? place with
      | some _ => .error .alreadyExists
      | none => .ok { disk with directories := place :: disk.directories }

/-- Whether the steps lead to a directory. -/
def leadsToDirectory (disk : Disk) (steps : List String) : Bool :=
  match disk.walk [] steps with
  | .ok place =>
      match disk.entry? place with
      | some .directory => true
      | _ => false
  | .error _ => false

/--
Make a directory and those above it; the last step comes first.  What has been
made before a step fails stays.
-/
def makeDirectories (disk : Disk) :
    (reversed : List String) → Except IoError Unit × Disk
  | [] => (.ok (), disk)
  | last :: above =>
      let steps := (last :: above).reverse
      let finish (disk : Disk) : Except IoError Disk → Except IoError Unit × Disk
        | .ok made => (.ok (), made)
        | .error error =>
            (if disk.leadsToDirectory steps then .ok () else .error error, disk)
      match disk.makeDirectory steps with
      | .error .notFound =>
          match disk.makeDirectories above with
          | (.ok (), disk) => finish disk (disk.makeDirectory steps)
          | failed => failed
      | result => finish disk result

/-- Make the directories above the file that a path names. -/
def makeParents (disk : Disk) (path : String) : Except IoError Unit × Disk :=
  disk.makeDirectories (steps path).reverse.tail

end Disk

end LogRows
