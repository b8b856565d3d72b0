import LogRows.CommandLine.Invocation
import LogRows.Program.Failure
import LogRows.Program.Host
import LogRows.Report.RowText

/-!
# The commands

Every command runs over a host and answers with a failure or with nothing.  Two
of them show rows: `tail` lets the stream select them, `watch` takes every row
of the stream and selects them itself.  A failed row is never selected out; it
is reported on the standard error.
-/

namespace LogRows.Program

/-- What the commands of one run have in common. -/
structure Context where
  /-- Where the settings are kept, if a place is known. -/
  settingsPath? : Option String
  stream : Stream.Config
  /-- Whether to write in colors. -/
  color : Bool

variable {m : Type → Type} [Monad m]

/-- Show a row: one that failed as a report, another if the filter accepts it. -/
def showRow
    (host : Host m)
    (color : Bool)
    (filter : Filter)
    (selection : Report.Selection)
    (row : Row) :
    m Unit :=
  match row with
  | .failed error => host.report (Report.errorLine color error ++ "\n")
  | .data _ =>
      if filter.accepts row then
        host.print (Report.rowText selection color row ++ "\n")
      else
        pure ()

/-- The view with what a template of the settings file adds to it. -/
def templateView
    (host : Host m)
    (context : Context)
    (view : View)
    (name : String) :
    m (Except Failure View) :=
  match context.settingsPath? with
  | none => pure (.error .noTemplateSource)
  | some path => do
      match ← Settings.loadTemplate host.files path name with
      | .error error => return .error (.settings error)
      | .ok none => return .error (.unknownTemplate name)
      | .ok (some template) => return .ok (view.orElse (.ofTemplate template))

/-- Watch what a view describes. -/
def watchView
    (host : Host m)
    (context : Context)
    (view : View) :
    m (Except Failure Unit) :=
  match compileCondition view.condition with
  | .error failure => pure (.error failure)
  | .ok filter => do
      let deliver := showRow host context.color filter view.selection
      match view.file?.filter (· ≠ "") with
      | some file =>
          let path := expandToday file (← host.today)
          host.report
            ("Watch file \"" ++ path ++ "\" with filter \"" ++ view.condition ++ "\"\n\n")
          match ← host.followFile context.stream path deliver with
          | .error error => return .error (.notWatched path error)
          | .ok () => return .ok ()
      | none =>
          host.report ("Watch with filter \"" ++ view.condition ++ "\"\n\n")
          host.followInput context.stream deliver
          return .ok ()

/-- Watch what a view describes, with a template for what it leaves open. -/
def watch
    (host : Host m)
    (context : Context)
    (view : View)
    (template? : Option String) :
    m (Except Failure Unit) :=
  match template? with
  | none => watchView host context view
  | some name => do
      match ← templateView host context view name with
      | .error failure => return .error failure
      | .ok view => watchView host context view

/-- Show the rows of the end of a file. -/
def tail
    (host : Host m)
    (context : Context)
    (file : String)
    (bytes : Nat)
    (condition : String) :
    m (Except Failure Unit) :=
  match compileCondition condition with
  | .error failure => pure (.error failure)
  | .ok filter => do
      let deliver := showRow host context.color .all .default
      match ← host.tail context.stream filter file bytes deliver with
      | .error error => return .error (.notRead file error)
      | .ok () => return .ok ()

/-- Save the flags of a view under a name; a view without flags removes the name. -/
def saveTemplate
    (host : Host m)
    (path name : String)
    (view : View) :
    m (Except Failure Unit) := do
  match ← Settings.save host.files path name view.template with
  | .error error => return .error (.settings error)
  | .ok () =>
      if view.template.isEmpty then
        host.print ("Template \"" ++ name ++ "\" deleted\n")
      else
        host.print ("Template \"" ++ name ++ "\" saved to " ++ path ++ "\n")
      return .ok ()

/-- The line of a list of templates. -/
def templateLine (name : String) (template : Template) : String :=
  "\t" ++ name ++ " :\t" ++ template.describe ++ "\n"

/-- List the saved templates. -/
def listTemplates
    (host : Host m)
    (path : String) :
    m (Except Failure Unit) := do
  match ← Settings.loadTemplates host.files path with
  | .error error => return .error (.settings error)
  | .ok templates =>
      if templates.isEmpty then
        host.print "No templates saved\n"
      else
        host.print <| String.join <|
          templates.entries.map fun entry => templateLine entry.1 entry.2
      return .ok ()

/-- Carry out a command. -/
def runCommand
    (host : Host m)
    (context : Context) :
    Command → m (Except Failure Unit)
  | .watch view template? => watch host context view template?
  | .tail file bytes condition? => tail host context file bytes (condition?.getD "")
  | .saveTemplate name view =>
      match context.settingsPath? with
      | none => pure (.error .noSettingsPath)
      | some path => saveTemplate host path name view
  | .listTemplates =>
      match context.settingsPath? with
      | none => pure (.error .noSettingsPath)
      | some path => listTemplates host path

end LogRows.Program
