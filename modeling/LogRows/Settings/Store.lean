import LogRows.Disk
import LogRows.Settings.Document
import LogRows.Text.Utf8

/-!
# The settings file

The settings file is read as a whole, and every save reads it, changes the
settings and writes all of them back.  A file that is not there holds the
default settings; one that cannot be read or understood stops a save before
anything is written.

Files are reached through a `Files` record, so that the store runs over the
files of a machine as well as over a `Disk`.
-/

namespace LogRows

/-- What the store asks of a file system. -/
structure Files (m : Type → Type) where
  read : (path : String) → m (Except IoError (List UInt8))
  /-- Make the directories above a file. -/
  makeParents : (path : String) → m (Except IoError Unit)
  write : (path : String) → (content : List UInt8) → m (Except IoError Unit)

/-- Why the store cannot do what it is asked to do. -/
inductive SettingsError where
  | unreadable (path : String) (cause : IoError)
  | malformed (path : String)
  | unwritable (path : String) (cause : IoError)
deriving DecidableEq

namespace SettingsError

/--
The cause behind an error.  What is wrong with a malformed file, and at which place, the
program says in the message of its parser.  One text stands here for all such messages, and
its wording differs from theirs.
-/
def cause : SettingsError → String
  | .unreadable _ cause => cause.message
  | .malformed _ => "this is no settings document"
  | .unwritable _ cause => cause.message

/-- The wording of an error, which ends in its cause. -/
def message (error : SettingsError) : String :=
  match error with
  | .unreadable path _ => "Failed to read settings file '" ++ path ++ "': " ++ error.cause
  | .malformed path => "Failed to parse settings file '" ++ path ++ "': " ++ error.cause
  | .unwritable path _ => "Failed to write settings file '" ++ path ++ "': " ++ error.cause

end SettingsError

namespace Settings

/-- The settings that the bytes of a file hold. -/
def ofBytes (path : String) (content : List UInt8) : Except SettingsError Settings :=
  match Text.decode? content with
  | none => .error (.unreadable path .notText)
  | some text =>
      match ofText? text with
      | none => .error (.malformed path)
      | some settings => .ok settings

/-- The bytes of the file that holds settings. -/
def bytes (settings : Settings) : List UInt8 :=
  Text.encode settings.text

/-- Reading back what is written comes down to reading back its text. -/
theorem ofBytes_bytes (path : String) (settings : Settings) :
    ofBytes path settings.bytes =
      match ofText? settings.text with
      | none => .error (.malformed path)
      | some settings => .ok settings := by
  simp only [ofBytes, bytes, Text.decode?_encode]

/-- What reading a file says about the settings; a file that is not there holds the default. -/
def ofRead (path : String) :
    Except IoError (List UInt8) → Except SettingsError Settings
  | .ok content => ofBytes path content
  | .error .notFound => .ok default
  | .error cause => .error (.unreadable path cause)

variable {m : Type → Type} [Monad m]

/-- Load the settings. -/
def load (files : Files m) (path : String) : m (Except SettingsError Settings) := do
  return ofRead path (← files.read path)

/-- Load the templates. -/
def loadTemplates
    (files : Files m)
    (path : String) :
    m (Except SettingsError (SortedMap Template)) := do
  return (← load files path).map (·.templates)

/-- Load the template that is saved under a name, if there is one. -/
def loadTemplate
    (files : Files m)
    (path name : String) :
    m (Except SettingsError (Option Template)) := do
  return (← load files path).map (·.templates.get? name)

/-- Write the settings, making the directories above the file if need be. -/
def store
    (files : Files m)
    (path : String)
    (settings : Settings) :
    m (Except SettingsError Unit) := do
  match ← files.makeParents path with
  | .error cause => return .error (.unwritable path cause)
  | .ok () =>
      match ← files.write path settings.bytes with
      | .error cause => return .error (.unwritable path cause)
      | .ok () => return .ok ()

/-- Save a template under a name in the settings file; one without flags is removed. -/
def save
    (files : Files m)
    (path name : String)
    (template : Template) :
    m (Except SettingsError Unit) := do
  match ← load files path with
  | .error error => return .error error
  | .ok settings => store files path (settings.saveTemplate name template)

end Settings

namespace Disk

/-- Write a file; a write that fails leaves the disk as it was. -/
def tryWrite
    (path : String)
    (content : List UInt8) :
    StateM Disk (Except IoError Unit) :=
  fun disk =>
    match disk.write path content with
    | .ok changed => (.ok (), changed)
    | .error error => (.error error, disk)

/-- The files of a disk. -/
def fileAccess : Files (StateM Disk) where
  read path := fun disk => (disk.read path, disk)
  makeParents path := fun disk => disk.makeParents path
  write := tryWrite

end Disk

end LogRows
