import LogRows.Program.Run
import Std.Time.DateTime.Timestamp

/-!
# The program on a machine

The host of this module reaches the files, the clock and the standard streams
of a machine.  It moves bytes and decides nothing; what the bytes mean is said
by the modules that it calls.
-/

namespace LogRows.Console

/-- The code of an error; some calls of the machine give it with a minus sign. -/
def systemCode (code : UInt32) : UInt32 :=
  if code < 0x80000000 then code else 0 - code

/-- The cause that an error of the machine stands for. -/
def causeOf : IO.Error → IoError
  | .noFileOrDirectory _ _ _ => .notFound
  | .alreadyExists _ _ _ => .alreadyExists
  | .permissionDenied _ _ _ => .other "Permission denied (os error 13)"
  | .inappropriateType _ code details =>
      if systemCode code = 20 then
        .notADirectory
      else if systemCode code = 21 then
        .isADirectory
      else
        .other details
  | .invalidArgument _ code details =>
      if systemCode code = 36 then .nameTooLong else .other details
  | error => .other error.toString

/-- Do something that may fail on the machine. -/
def attempt {Result : Type} (action : IO Result) : IO (Except IoError Result) := do
  try
    return .ok (← action)
  catch error =>
    return .error (causeOf error)

/-- Do something with the file of a path, if the path can name one. -/
def attemptAt {Result : Type} (path : String) (action : IO Result) :
    IO (Except IoError Result) :=
  match Disk.pathFault? path with
  | some fault => return .error fault
  | none => attempt action

/-- The directory of a path, as it is written; it is empty for a lone name. -/
def parentOf (path : String) : String :=
  let reversed := path.toList.reverse.dropWhile (· == '/')
  String.ofList (reversed.dropWhile (· != '/')).reverse

/-- The files of the machine. -/
def files : Files IO where
  read path := attemptAt path do
    return (← IO.FS.readBinFile path).data.toList
  makeParents path := attemptAt path do
    let parent := parentOf path
    unless parent.isEmpty do
      IO.FS.createDirAll parent
  write path content := attemptAt path (IO.FS.writeBinFile path ⟨content.toArray⟩)

/-- Write a text at once. -/
def writeAll (stream : IO.FS.Stream) (text : String) : IO Unit := do
  stream.putStr text
  stream.flush

/-- Deliver the rows of lines. -/
def deliverLines (deliver : Row → IO Unit) (lines : List Line) : IO Unit :=
  (lines.filterMap Stream.rowOfLine?).forM deliver

/-- Read to the present end; nothing is left to go on with when a read has failed. -/
partial def readRows
    (source : IO.FS.Stream)
    (chunk : USize)
    (deliver : Row → IO Unit)
    (buffer : LineBuffer) :
    IO (Option LineBuffer) := do
  match ← attempt (source.read chunk) with
  | .error cause =>
      deliver (.failed (.read cause.message))
      return none
  | .ok piece =>
      if piece.isEmpty then
        return some buffer
      else
        let (buffer, lines) := buffer.push piece.data.toList
        deliverLines deliver lines
        readRows source chunk deliver buffer

/-- The time between two looks at a file, in milliseconds. -/
def pause : UInt32 :=
  200

/-- Keep reading what comes to a file. -/
partial def readForever
    (source : IO.FS.Stream)
    (chunk : USize)
    (deliver : Row → IO Unit)
    (buffer : LineBuffer) :
    IO Unit := do
  match ← readRows source chunk deliver buffer with
  | none => return ()
  | some buffer =>
      IO.sleep pause
      readForever source chunk deliver buffer

/-- The size of a read of a file, which is at least one byte. -/
def chunkOf (config : Stream.Config) : USize :=
  USize.ofNat (max 1 (min config.readChunkBytes 1048576))

/-- The size of a read of the standard input: a read waits until it has all its bytes. -/
def inputChunk : USize :=
  1

/-- Open a file for reading. -/
def openFile (path : String) : IO (Except Stream.OpenError IO.FS.Handle) := do
  match ← attemptAt path (IO.FS.Handle.mk path .read) with
  | .error cause => return .error ⟨path, cause⟩
  | .ok handle => return .ok handle

/-- The host that is the machine. -/
def host : Host IO where
  files := files
  today := do
    let now ← Std.Time.Timestamp.now
    return Date.ofDayNumber (now.toSecondsSinceUnixEpoch.val.fdiv 86400)
  print text := do
    writeAll (← IO.getStdout) text
  report text := do
    writeAll (← IO.getStderr) text
  tail config filter path bytes deliver := do
    match ← openFile path with
    | .error error => return .error error
    | .ok handle =>
        let pipeline : Stream.Pipeline :=
          match ← attempt handle.readBinToEnd with
          | .error cause => .readUnreadable config .fresh filter cause.message
          | .ok content => .readTail config .fresh filter bytes content.data.toList
        pipeline.allRows.forM deliver
        return .ok ()
  followFile config path deliver := do
    match ← openFile path with
    | .error error => return .error error
    | .ok handle =>
        discard (attempt handle.readBinToEnd)
        readForever (.ofHandle handle) (chunkOf config) deliver (.withLimit maxLineBytes)
        return .ok ()
  followInput _ deliver := do
    match ← readRows (← IO.getStdin) inputChunk deliver (.withLimit maxLineBytes) with
    | none => return ()
    | some buffer => deliverLines deliver buffer.finish.2.toList

/-- The variables of the machine. -/
def environment : IO Program.Environment := do
  return {
    home? := ← IO.getEnv "HOME"
    settings? := ← IO.getEnv "LOGVIEW_SETTINGS"
    forceColor? := ← IO.getEnv "CLICOLOR_FORCE"
    noColor? := ← IO.getEnv "NO_COLOR"
    terminalColor? := ← IO.getEnv "CLICOLOR"
    terminal := ← (← IO.getStdout).isTty
  }

end LogRows.Console

/-- Run the program; a reader of the output that goes away ends it quietly. -/
def main (arguments : List String) : IO UInt32 := do
  try
    LogRows.Program.run LogRows.Console.host (← LogRows.Console.environment) arguments
  catch
    | .resourceVanished _ _ => return LogRows.Program.successCode
    | error => throw error
