/-!
# Commands and their flags

The command line has levels: the program itself, its commands, and below
`tpl` the commands for templates.  A level has flags of its own and those that
every level has.  The tables of this module say how levels and flags are
written; the names of flags are distinct within every level.
-/

namespace LogRows.CommandLine

/-- A place on the command line where flags can stand. -/
inductive Level where
  | program
  | watch
  | tail
  | templates
  | save
  | list
  /-- The command that asks for help on the commands behind it. -/
  | help
deriving DecidableEq

/-- A flag, by its meaning. -/
inductive Flag where
  | verbose
  | settings
  | noColor
  | help
  | version
  | file
  | condition
  | template
  | output
  | accent
  | bytes
deriving DecidableEq

/-- What has to stand behind a flag. -/
inductive Operand where
  | nothing
  | text
  /-- The path of a file, which is not empty. -/
  | path
  /-- A number of bytes that fits 64 bits. -/
  | size
deriving DecidableEq

/-- The name of a flag behind two dashes. -/
def Flag.name : Flag → String
  | .verbose => "verbose"
  | .settings => "settings"
  | .noColor => "no-color"
  | .help => "help"
  | .version => "version"
  | .file => "file"
  | .condition => "condition"
  | .template => "template"
  | .output => "output"
  | .accent => "accent"
  | .bytes => "bytes"

/-- The letter of a flag behind one dash. -/
def Flag.letter? : Flag → Option Char
  | .verbose => some 'v'
  | .settings => some 's'
  | .noColor => none
  | .help => some 'h'
  | .version => some 'V'
  | .file => some 'f'
  | .condition => some 'c'
  | .template => some 't'
  | .output => some 'o'
  | .accent => some 'a'
  | .bytes => some 'b'

/-- What a flag is for. -/
def Flag.purpose : Flag → String
  | .verbose => "Give more diagnostic output; may be repeated"
  | .settings => "Settings file with stream sizes and templates"
  | .noColor => "Write without colors"
  | .help => "Print help"
  | .version => "Print version"
  | .file => "Log file; '@today@' becomes the date of the day"
  | .condition => "Condition on rows, such as: level = error and module ~ billing"
  | .template => "Name of a saved template"
  | .output => "Comma-separated fields to show; patterns and '!pattern' allowed"
  | .accent => "Comma-separated fields to highlight"
  | .bytes => "Read only the last bytes; 0 reads the whole file"

namespace Level

/-- The flags that every level has. -/
def commonFlags : List Flag :=
  [.verbose, .settings, .noColor, .help]

/-- The flags of a level. -/
def flags : Level → List Flag
  | .program => commonFlags ++ [.version]
  | .watch => commonFlags ++ [.file, .condition, .template, .output, .accent]
  | .tail => commonFlags ++ [.file, .bytes, .condition]
  | .templates => commonFlags
  | .save => commonFlags ++ [.template, .file, .condition, .output, .accent]
  | .list => commonFlags
  | .help => []

/-- The commands of a level, as they are written. -/
def commands : Level → List (String × Level)
  | .program =>
      [("watch", .watch), ("tail", .tail), ("tpl", .templates), ("help", .help)]
  | .templates => [("save", .save), ("list", .list), ("help", .help)]
  | _ => []

/-- What a level is for. -/
def purpose : Level → String
  | .program => "Watch and filter log files of JSON rows"
  | .watch => "Follow new rows of a log file or of the standard input"
  | .tail => "Show rows from the end of a log file"
  | .templates => "Manage saved templates"
  | .save => "Save flags as a template; without flags the template is removed"
  | .list => "List saved templates"
  | .help => "Print help on a command"

/-- What has to stand behind a flag; only the file to tail is a path that cannot be empty. -/
def operand (level : Level) : Flag → Operand
  | .verbose => .nothing
  | .noColor => .nothing
  | .help => .nothing
  | .version => .nothing
  | .settings => .path
  | .bytes => .size
  | .file => if level = .tail then .path else .text
  | _ => .text

/-- The flags that have to be given. -/
def required : Level → List Flag
  | .tail => [.file]
  | .save => [.template]
  | _ => []

/-- Whether one of the commands of a level has to be given. -/
def needsCommand (level : Level) : Bool :=
  level = .templates

/-- The flag of a level with a name. -/
def flagNamed? (level : Level) (name : String) : Option Flag :=
  level.flags.find? fun flag => flag.name = name

/-- The flag of a level with a letter. -/
def flagLettered? (level : Level) (letter : Char) : Option Flag :=
  level.flags.find? fun flag => flag.letter? = some letter

/-- The command of a level with a name. -/
def command? (level : Level) (name : String) : Option Level :=
  (level.commands.find? fun entry => entry.1 = name).map (·.2)

end Level

end LogRows.CommandLine
