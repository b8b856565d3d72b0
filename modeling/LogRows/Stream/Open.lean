import LogRows.Disk
import LogRows.Stream.Schedule

/-!
# Opening streams over files

A file has to be found before a stream over it can start; that it cannot be
read shows only later, as a failed row.  A directory is found but not read.
-/

namespace LogRows.Stream

/-- A stream that could not be opened. -/
structure OpenError where
  path : String
  cause : IoError
deriving DecidableEq

/-- The wording of a failure to open. -/
def OpenError.message (error : OpenError) : String :=
  "Failed to open '" ++ error.path ++ "': " ++ error.cause.message

/-- Open the last bytes of a file, or all of it if their number is zero. -/
def openTail
    (disk : Disk)
    (config : Config)
    (scope : Scope)
    (filter : Filter)
    (path : String)
    (bytes : Nat) :
    Except OpenError Pipeline :=
  match disk.resolve path with
  | .error cause => .error ⟨path, cause⟩
  | .ok .directory =>
      .ok (.readUnreadable config scope filter IoError.isADirectory.message)
  | .ok (.file content) => .ok (.readTail config scope filter bytes content)

/-- Follow a file from its present end. -/
def openWatch
    (disk : Disk)
    (config : Config)
    (scope : Scope)
    (path : String) :
    Except OpenError Pipeline :=
  match disk.resolve path with
  | .error cause => .error ⟨path, cause⟩
  | .ok _ => .ok (.watchFile config scope)

end LogRows.Stream
