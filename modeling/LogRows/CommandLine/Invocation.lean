import LogRows.CommandLine.Words
import LogRows.View

/-!
# What a command line asks for

An `Invocation` is a command with everything that is given to it.  A flag that
every level has counts where it stands last: at the innermost level that gives
it.  Without a command the standard input is watched.
-/

namespace LogRows

/-- A command with its flags. -/
inductive Command where
  /-- Follow a file or the standard input, with a template for what the view leaves open. -/
  | watch (view : View) (template? : Option String)
  /-- Show the last bytes of a file, or all of it if their number is zero. -/
  | tail (file : String) (bytes : Nat) (condition? : Option String)
  | saveTemplate (name : String) (view : View)
  | listTemplates
deriving DecidableEq

/-- A command line that has been read. -/
structure Invocation where
  verbosity : Nat
  settings? : Option String
  noColor : Bool
  command? : Option Command
deriving DecidableEq

namespace CommandLine

/-- The view that flags describe. -/
def Given.view (given : Given) : View :=
  ⟨given.value? .file, given.value? .condition, given.value? .output, given.value? .accent⟩

/-- The command of a level with its flags. -/
def Level.commandWith? (level : Level) (given : Given) : Option Command :=
  match level with
  | .watch => some (.watch given.view (given.value? .template))
  | .tail =>
      some (.tail ((given.value? .file).getD "")
        (((given.value? .bytes).bind sizeOf?).getD 0) (given.value? .condition))
  | .save => some (.saveTemplate ((given.value? .template).getD "") given.view)
  | .list => some .listTemplates
  | .program => none
  | .templates => none
  | .help => none

/-- The greatest number that counts repeated flags. -/
def maxVerbosity : Nat :=
  255

/-- How often `--verbose` is given at the innermost level that gives it. -/
def verbosity (levels : List (Level × Given)) : Nat :=
  match levels.reverse.find? fun level => level.2.has .verbose with
  | some level => min (level.2.count .verbose) maxVerbosity
  | none => 0

/-- Read a command line, with the settings path of the environment if there is one. -/
def read (defaultSettings? : Option String) (words : List String) :
    Except Halt Invocation := do
  let levels ← readWords defaultSettings? .program .start words
  .ok {
    verbosity := verbosity levels
    settings? := (levels.reverse.findSome? fun level => level.2.value? .settings).or
      defaultSettings?
    noColor := levels.any fun level => level.2.has .noColor
    command? := levels.reverse.findSome? fun level => level.1.commandWith? level.2
  }

end CommandLine

end LogRows
