import LogRows.CommandLine.Words

/-!
# Help and the wording of misuse

The help of a level lists its commands and flags as the tables of the command
line have them, so that help and reading cannot disagree.
-/

namespace LogRows.CommandLine

/-- The name that the program is called by. -/
def programName : String :=
  "logview"

/-- The version of the program. -/
def version : String :=
  "0.1.0"

/-- The line that tells the version. -/
def versionLine : String :=
  programName ++ " " ++ version ++ "\n"

/-- The text with blanks behind it, up to a width. -/
def column (width : Nat) (text : String) : String :=
  text.pushn ' ' (width - text.length)

/-- A flag as it is written, with its letter first. -/
def Flag.spelling (flag : Flag) : String :=
  match flag.letter? with
  | some letter => "-" ++ letter.toString ++ ", --" ++ flag.name
  | none => "    --" ++ flag.name

/-- What stands for the operand of a flag. -/
def Operand.placeholder : Operand → String
  | .nothing => ""
  | .text => " <TEXT>"
  | .path => " <PATH>"
  | .size => " <BYTES>"

/-- The line of a flag. -/
def Level.flagLine (level : Level) (flag : Flag) : String :=
  "  " ++ column 26 (flag.spelling ++ (level.operand flag).placeholder) ++ flag.purpose ++ "\n"

/-- The line of a command. -/
def commandLine (name : String) (level : Level) : String :=
  "  " ++ column 8 name ++ level.purpose ++ "\n"

/-- The lines of all commands of a level. -/
def Level.commandLines (level : Level) : String :=
  if level.commands.isEmpty then
    ""
  else
    "\nCommands:\n" ++ String.join (level.commands.map fun entry => commandLine entry.1 entry.2)

/-- The words that lead to a level. -/
def Level.path : Level → String
  | .program => programName
  | .watch => programName ++ " watch"
  | .tail => programName ++ " tail"
  | .templates => programName ++ " tpl"
  | .save => programName ++ " tpl save"
  | .list => programName ++ " tpl list"
  | .help => programName ++ " help"

/-- The help on a level. -/
def Level.helpText (level : Level) : String :=
  level.purpose ++ "\n\nUsage: " ++ level.path ++ " [OPTIONS]" ++
    (if level.commands.isEmpty then "" else " [COMMAND]") ++ "\n" ++
    level.commandLines ++ "\nOptions:\n" ++ String.join (level.flags.map level.flagLine)

/-- The wording of a misuse. -/
def Misuse.message : Misuse → String
  | .unknownArgument word => "unexpected argument '" ++ word ++ "' found"
  | .unknownCommand word => "unrecognized command '" ++ word ++ "'"
  | .repeatedFlag flag => "'--" ++ flag.name ++ "' cannot be used more than once"
  | .missingValue flag => "a value is required for '--" ++ flag.name ++ "' but none was given"
  | .invalidNumber flag value =>
      "invalid value '" ++ value ++ "' for '--" ++ flag.name ++ "'"
  | .unexpectedValue flag => "'--" ++ flag.name ++ "' takes no value"
  | .missingFlag flag => "'--" ++ flag.name ++ "' has to be given"
  | .missingCommand => "a command has to be given"
  | .nothingGiven => "a command has to be given"

/-- The lines that are written about a misuse. -/
def Misuse.report (fault : Misuse) : String :=
  "error: " ++ fault.message ++ "\n\nFor more information, try '--help'.\n"

end LogRows.CommandLine
