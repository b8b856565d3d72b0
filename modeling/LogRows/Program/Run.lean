import LogRows.CommandLine.Help
import LogRows.Program.Commands

/-!
# A run of the program

A run reads the command line, loads the settings and carries out one command.
It ends with an exit code: zero for success, one for a command that failed and
two for a command line that makes no sense.
-/

namespace LogRows.Program

/-- The variables that a run looks at. -/
structure Environment where
  /-- The home directory. -/
  home? : Option String
  /-- The settings file. -/
  settings? : Option String
  /-- A wish for colors, also where the output is no terminal. -/
  forceColor? : Option String
  /-- A wish for no colors. -/
  noColor? : Option String
  /-- A wish for colors or not, where the output is a terminal. -/
  terminalColor? : Option String
  /-- Whether the standard output is a terminal. -/
  terminal : Bool

namespace Environment

/-- Whether a variable is set to anything but `0`. -/
def isOn (value? : Option String) : Bool :=
  value?.isSome && value? ≠ some "0"

/-- Whether the environment asks for colors. -/
def color (environment : Environment) : Bool :=
  if isOn environment.forceColor? then
    true
  else if environment.noColor?.isSome then
    false
  else
    environment.terminal && (environment.terminalColor?.isNone || isOn environment.terminalColor?)

/-- A name below a directory. -/
def below (directory name : String) : String :=
  if directory.endsWith "/" then directory ++ name else directory ++ "/" ++ name

/-- The settings file below the home directory, if there is one. -/
def homeSettings? (environment : Environment) : Option String :=
  (environment.home?.filter (· ≠ "")).map fun home =>
    below (below home ".logview") "settings.toml"

end Environment

/-- The exit code of a success. -/
def successCode : UInt32 :=
  0

/-- The exit code of a command that failed. -/
def failureCode : UInt32 :=
  1

/-- The exit code of a command line that makes no sense. -/
def misuseCode : UInt32 :=
  2

variable {m : Type → Type} [Monad m]

/-- The settings, from the file whose place is known. -/
def loadSettings
    (host : Host m)
    (path? : Option String) :
    m (Except Failure Settings) :=
  match path? with
  | none => pure (.ok .default)
  | some path => do
      match ← Settings.load host.files path with
      | .error error => return .error (.settingsNotLoaded path error)
      | .ok settings => return .ok settings

/-- Carry out an invocation. -/
def invoke
    (host : Host m)
    (environment : Environment)
    (invocation : Invocation) :
    m (Except Failure Unit) := do
  let path? := invocation.settings?.or environment.homeSettings?
  match ← loadSettings host path? with
  | .error failure => return .error failure
  | .ok settings =>
      runCommand host
        ⟨path?, settings.stream, environment.color && !invocation.noColor⟩
        (invocation.command?.getD (.watch .empty none))

/-- Run the program on the words behind its name. -/
def run
    (host : Host m)
    (environment : Environment)
    (words : List String) :
    m UInt32 := do
  match CommandLine.read environment.settings? words with
  | .error (.help level) =>
      host.print level.helpText
      return successCode
  | .error .version =>
      host.print CommandLine.versionLine
      return successCode
  | .error (.misuse fault) =>
      host.report fault.report
      return misuseCode
  | .ok invocation =>
      match ← invoke host environment invocation with
      | .ok () => return successCode
      | .error failure =>
          host.report ("Error: " ++ failure.message ++ "\n")
          return failureCode

end LogRows.Program
